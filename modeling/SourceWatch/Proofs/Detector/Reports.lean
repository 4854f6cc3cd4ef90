import SourceWatch.Proofs.Catalog.Language
import SourceWatch.Proofs.Detector.Keywords

/-!
# What a detector reports

A detector goes through the rules of its catalog, first those about keywords and then the structural ones, and makes
one finding for each rule that the text satisfies.  The catalog that it goes through is the one that it was made for,
unless that one has no rules at all: an empty catalog gives way to the default one.

Main definitions:

* `Selects`: findings in the order of the rules, one for each rule that applies;
* `ReportsCatalog`: the findings of a catalog in a text.

Main statements:

* `Detector.reportsCatalog_inspect`: a detector reports what the catalog that it holds asks for;
* `Detector.reportsCatalog_iff`: this is the catalog that it was made for if and only if that one has a rule.
-/

namespace SourceWatch

open Text

/-- Findings in the order of the rules: one for each rule that applies and none for the others. -/
inductive Selects {ρ : Type} (applies : ρ → Prop) (isFor : ρ → Finding → Prop) : List ρ → List Finding → Prop
  | nil : Selects applies isFor [] []
  | hit {rule : ρ} {f : Finding} {rules : List ρ} {fs : List Finding} :
      applies rule → isFor rule f → Selects applies isFor rules fs → Selects applies isFor (rule :: rules) (f :: fs)
  | miss {rule : ρ} {rules : List ρ} {fs : List Finding} :
      ¬ applies rule → Selects applies isFor rules fs → Selects applies isFor (rule :: rules) fs

/-- A finding about a keyword in the file at a path, made in a cycle. -/
structure IsKeywordFinding (path : String) (cycle : ℤ) (rule : KeywordRule) (f : Finding) : Prop where
  category : f.category = keywordCategory
  severity : f.severity = rule.severity
  filePath : f.filePath = path
  matchedKeyword : f.matchedKeyword = some rule.keyword
  message : f.message = "Potentially suspicious keyword \"" ++ rule.keyword ++ "\" found"
  cycle : f.cycle = cycle
  rule : f.rule = none

/-- A finding of a structural rule in the file at a path, made in a cycle. -/
structure IsStructuralFinding (path : String) (cycle : ℤ) (rule : StructuralRule) (f : Finding) : Prop where
  category : f.category = rule.category
  severity : f.severity = rule.severity
  filePath : f.filePath = path
  matchedKeyword : f.matchedKeyword = none
  message : f.message = rule.message
  cycle : f.cycle = cycle
  rule : f.rule = some rule.name

/-- Somewhere in a text stands what one of the sequences of a pattern describes, and a word may start there if the
pattern is tied to the start of a word. -/
def Pattern.StandsIn (p : Pattern) (content : List Char) : Prop :=
  ∃ u m w, content = u ++ m ++ w ∧ (∃ atoms ∈ p.alternatives, Describes atoms m) ∧
    (p.atWordStart = true → OutsideWord u)

/-- **The findings of a catalog in a text:** first those of the keywords that occur, then those of the patterns that
stand in it, each kind in the order of the catalog. -/
def ReportsCatalog (c : Catalog) (path : String) (cycle : ℤ) (content : List Char) (fs : List Finding) : Prop :=
  ∃ keywordFindings structuralFindings, fs = keywordFindings ++ structuralFindings ∧
    Selects (fun rule => rule.keyword.toList <:+: content) (IsKeywordFinding path cycle) c.keywordRules
      keywordFindings ∧
    Selects (fun rule => rule.pattern.StandsIn content) (IsStructuralFinding path cycle) c.structuralRules
      structuralFindings

/-! ### Selections -/

/-- Filtering the rules and making the finding of each that is left is a selection. -/
theorem selects_map_filter {ρ : Type} {applies : ρ → Prop} {isFor : ρ → Finding → Prop} {test : ρ → Bool}
    {make : ρ → Finding} (htest : ∀ rule, test rule = true ↔ applies rule) (hmake : ∀ rule, isFor rule (make rule))
    (rules : List ρ) : Selects applies isFor rules ((rules.filter test).map make) := by
  induction rules with
  | nil => exact .nil
  | cons rule rules ih =>
    by_cases hrule : test rule = true
    · rw [List.filter_cons_of_pos hrule, List.map_cons]
      exact .hit ((htest rule).mp hrule) (hmake rule) ih
    · rw [List.filter_cons_of_neg hrule]
      exact .miss (fun happlies => hrule ((htest rule).mpr happlies)) ih

/-- A catalog without rules asks for no findings. -/
theorem eq_nil_of_reportsCatalog {path : String} {cycle : ℤ} {content : List Char} {fs : List Finding}
    (h : ReportsCatalog ⟨[], []⟩ path cycle content fs) : fs = [] := by
  obtain ⟨keywordFindings, structuralFindings, rfl, hkeywords, hstructural⟩ := h
  cases hkeywords
  cases hstructural
  rfl

theorem Catalog.size_eq_zero_iff {c : Catalog} : c.size = 0 ↔ c.keywordRules = [] ∧ c.structuralRules = [] := by
  rw [Catalog.size, Nat.add_eq_zero_iff, List.length_eq_zero_iff, List.length_eq_zero_iff]

namespace Detector

/-- **A detector reports what the catalog that it holds asks for.** -/
theorem reportsCatalog_inspect (d : Detector) (stamp : Stamp) (path : String) (content : List Char) :
    ReportsCatalog d.catalog path stamp.cycle content (d.inspect stamp path content) := by
  refine ⟨_, _, rfl, selects_map_filter (fun _ => occursIn_iff) (fun rule => ?_) _,
    selects_map_filter (fun _ => Pattern.search_iff) (fun rule => ?_) _⟩
  · exact ⟨rfl, rfl, rfl, rfl, rfl, rfl, rfl⟩
  · exact ⟨rfl, rfl, rfl, rfl, rfl, rfl, rfl⟩

/-- For a catalog without rules the keywords of the default catalog are reported. -/
theorem inspect_ofCatalog_empty_ne_nil (maxFileBytes : ℤ) (stamp : Stamp) (path : String) :
    (ofCatalog ⟨[], []⟩ maxFileBytes).inspect stamp path "malware".toList ≠ [] := by
  have hsame : ofCatalog ⟨[], []⟩ maxFileBytes = ofCatalog .default maxFileBytes := rfl
  have hmem : "malware" ∈ defaultKeywords := by decide
  have hreported : (ofCatalog .default maxFileBytes).ReportsKeyword stamp path "malware".toList
      (normalKeyword "malware") :=
    (reportsKeyword_build_iff hmem (by decide +kernel)).mpr (by decide +kernel)
  obtain ⟨f, hf, -⟩ := hreported
  rw [hsame]
  exact List.ne_nil_of_mem hf

/-- **A detector reports the catalog that it was made for if and only if that one has a rule.**  For a catalog without
rules it reports the default one. -/
theorem reportsCatalog_iff (c : Catalog) (maxFileBytes : ℤ) :
    ((∀ stamp path content,
        ReportsCatalog c path stamp.cycle content ((ofCatalog c maxFileBytes).inspect stamp path content)) ↔
      c.keywordRules ≠ [] ∨ c.structuralRules ≠ []) ∧
    (c.keywordRules = [] → c.structuralRules = [] → ∀ stamp path content,
      ReportsCatalog .default path stamp.cycle content ((ofCatalog c maxFileBytes).inspect stamp path content)) := by
  refine ⟨⟨fun hreports => ?_, fun hrules stamp path content => ?_⟩, fun hkeywords hstructural stamp path content => ?_⟩
  · -- if it had no rules, it would have to report nothing
    rw [← not_and_or, ← Catalog.size_eq_zero_iff]
    intro hsize
    obtain ⟨hkeywords, hstructural⟩ := Catalog.size_eq_zero_iff.mp hsize
    obtain rfl : c = ⟨[], []⟩ := by rw [← hkeywords, ← hstructural]
    exact inspect_ofCatalog_empty_ne_nil maxFileBytes ⟨"", ⟨0⟩, 0⟩ "a.js" (eq_nil_of_reportsCatalog (hreports _ _ _))
  · have hsize : c.size ≠ 0 := by
      rw [Ne, Catalog.size_eq_zero_iff, not_and_or]
      exact hrules
    have hcatalog : (ofCatalog c maxFileBytes).catalog = c := by rw [ofCatalog, if_neg hsize]
    have h := reportsCatalog_inspect (ofCatalog c maxFileBytes) stamp path content
    rwa [hcatalog] at h
  · have hsize : c.size = 0 := Catalog.size_eq_zero_iff.mpr ⟨hkeywords, hstructural⟩
    have hcatalog : (ofCatalog c maxFileBytes).catalog = .default := by rw [ofCatalog, if_pos hsize]
    have h := reportsCatalog_inspect (ofCatalog c maxFileBytes) stamp path content
    rwa [hcatalog] at h

/-- For a catalog without rules a finding is reported that no rule of it asks for. -/
theorem not_reportsCatalog_empty : ¬ ReportsCatalog ⟨[], []⟩ "a.js" 0 "malware".toList
    ((ofCatalog ⟨[], []⟩ defaultMaxFileBytes).inspect ⟨"", ⟨0⟩, 0⟩ "a.js" "malware".toList) := by
  intro h
  exact inspect_ofCatalog_empty_ne_nil _ _ _ (eq_nil_of_reportsCatalog h)

end Detector

end SourceWatch

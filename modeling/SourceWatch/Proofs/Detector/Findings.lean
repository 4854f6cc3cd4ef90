import SourceWatch.Detector
import SourceWatch.Proofs.Ledger.Round

/-!
# The findings in one file

The findings that a built catalog makes in a file have keys that start with the path of the file.
Keyword findings have distinct keys, and structural findings come grouped by category, so that findings
with equal keys come in a row.

Main statements:

* `Detector.mem_inspect_iff`: the findings in a text;
* `Detector.clustered_scanFile`: findings with equal keys come in a row;
* `Detector.keys_scanFile`: the keys depend on the file only, not on the circumstances of the scan.
-/

namespace SourceWatch

/-! ### Built catalogs -/

/-- The rules of a built catalog look for distinct keywords. -/
theorem Catalog.nodup_keywords_build (keywords : List String)
    (overrides : List (String × Severity)) :
    ((build keywords overrides).keywordRules.map (·.keyword)).Nodup := by
  rw [build, List.map_map, show ((fun rule : KeywordRule => rule.keyword) ∘ fun k =>
    (⟨k, severityOf (overrideTable overrides) k⟩ : KeywordRule)) = id from rfl, List.map_id]
  exact nodup_eraseDups _

theorem Catalog.structuralRules_build (keywords : List String)
    (overrides : List (String × Severity)) :
    (build keywords overrides).structuralRules = SourceWatch.structuralRules :=
  rfl

/-- The rules about credentials come before those about dangerous calls and addresses. -/
theorem structuralRules_grouped :
    (∀ rule ∈ structuralRules.take 4, rule.category = credentialCategory) ∧
      ∀ rule ∈ structuralRules.drop 4, rule.category = executionCategory := by
  constructor <;> simp [structuralRules, credentialRule, executionRule]

theorem category_of_mem_structuralRules {rule : StructuralRule} (h : rule ∈ structuralRules) :
    rule.category = credentialCategory ∨ rule.category = executionCategory := by
  rw [← List.take_append_drop 4 structuralRules] at h
  rcases List.mem_append.mp h with h | h
  · exact .inl (structuralRules_grouped.1 rule h)
  · exact .inr (structuralRules_grouped.2 rule h)

namespace Detector

/-- A built catalog has rules, so it does not give way to the default one. -/
theorem catalog_ofCatalog_build (keywords : List String) (overrides : List (String × Severity))
    (maxFileBytes : Int) :
    (ofCatalog (.build keywords overrides) maxFileBytes).catalog = .build keywords overrides := by
  have hsize : (Catalog.build keywords overrides).size ≠ 0 := by
    rw [Catalog.size, Catalog.structuralRules_build]
    simp [structuralRules]
  rw [ofCatalog, if_neg hsize]

variable {d : Detector} {stamp : Stamp} {path : String} {content : List Char} {f : Finding}

/-! ### Keys -/

/-- The keys of the findings in a text. -/
theorem keys_inspect (d : Detector) (stamp : Stamp) (path : String) (content : List Char) :
    (d.inspect stamp path content).map Finding.key =
      ((d.catalog.keywordRules.filter fun rule => Text.occursIn rule.keyword.toList content).map
          fun rule => ⟨path, keywordCategory, some rule.keyword⟩) ++
        (d.catalog.structuralRules.filter fun rule => rule.pattern.search content).map
          fun rule => ⟨path, rule.category, none⟩ := by
  rw [inspect, List.map_append, List.map_map, List.map_map]
  rfl

/-- The keys depend on the file only. -/
theorem keys_scanFile (d : Detector) (top : Folder) (stamp stamp' : Stamp) (path : String) :
    (d.scanFile top stamp path).2.map Finding.key =
      (d.scanFile top stamp' path).2.map Finding.key := by
  unfold scanFile
  split
  · rfl
  · rfl
  · rfl
  · rw [keys_inspect, keys_inspect]

/-- What a file yields is what its text yields, if it is read. -/
theorem findings_scanFile (d : Detector) (top : Folder) (stamp : Stamp) (path : String) :
    (d.scanFile top stamp path).2 = [] ∨
      ∃ content, (d.scanFile top stamp path).2 = d.inspect stamp path content := by
  unfold scanFile
  split
  · exact .inl rfl
  · exact .inl rfl
  · exact .inl rfl
  · exact .inr ⟨_, rfl⟩

/-- **The findings in a text** are those of the keywords that occur in it and those of the patterns that are found. -/
theorem mem_inspect_iff : f ∈ d.inspect stamp path content ↔
    (∃ rule ∈ d.catalog.keywordRules, rule.keyword.toList <:+: content ∧ keywordFinding stamp path rule = f) ∨
      ∃ rule ∈ d.catalog.structuralRules, rule.pattern.search content = true ∧
        structuralFinding stamp path rule = f := by
  simp only [inspect, List.mem_append, List.mem_map, List.mem_filter, Text.occursIn_iff, and_assoc]

theorem filePath_of_mem_inspect (h : f ∈ d.inspect stamp path content) : f.filePath = path := by
  obtain ⟨rule, -, -, rfl⟩ | ⟨rule, -, -, rfl⟩ := mem_inspect_iff.mp h
  · rfl
  · rfl

theorem filePath_of_mem_scanFile {top : Folder} (h : f ∈ (d.scanFile top stamp path).2) :
    f.filePath = path := by
  rcases findings_scanFile d top stamp path with he | ⟨content, he⟩
  · rw [he] at h
    cases h
  · exact filePath_of_mem_inspect (he ▸ h)

section Built

variable {keywords : List String} {overrides : List (String × Severity)} {maxFileBytes : Int}

/-- No finding in a text looks like a test of the sinks. -/
theorem category_of_mem_inspect
    (h : f ∈ (ofCatalog (.build keywords overrides) maxFileBytes).inspect stamp path content) :
    f.category ≠ testCategory := by
  obtain ⟨rule, -, -, rfl⟩ | ⟨rule, hm, -, rfl⟩ := mem_inspect_iff.mp h
  · show keywordCategory ≠ testCategory
    decide
  · rw [catalog_ofCatalog_build] at hm
    have hrule := category_of_mem_structuralRules hm
    show rule.category ≠ testCategory
    rcases hrule with hc | hc
    · rw [hc]
      decide
    · rw [hc]
      decide

theorem category_of_mem_scanFile {top : Folder}
    (h : f ∈ ((ofCatalog (.build keywords overrides) maxFileBytes).scanFile top stamp path).2) :
    f.category ≠ testCategory := by
  rcases findings_scanFile _ top stamp path with he | ⟨content, he⟩
  · rw [he] at h
    cases h
  · exact category_of_mem_inspect (he ▸ h)

/-! ### Findings with equal keys -/

/-- Structural findings come grouped by category. -/
theorem clustered_structural (holds : StructuralRule → Bool) (stamp : Stamp) (path : String) :
    Clustered ((structuralRules.filter holds).map (structuralFinding stamp path)) := by
  rw [← List.take_append_drop 4 structuralRules, List.filter_append, List.map_append]
  obtain ⟨hcredential, hexecution⟩ := structuralRules_grouped
  -- all findings of a group have the same key
  have hgroup : ∀ {rules : List StructuralRule} {category : String},
      (∀ rule ∈ rules, rule.category = category) →
      ∀ f ∈ (rules.filter holds).map (structuralFinding stamp path), f.key = ⟨path, category, none⟩ := by
    intro rules category hc f hf
    obtain ⟨rule, hm, rfl⟩ := List.mem_map.mp hf
    show (⟨path, rule.category, none⟩ : RepeatKey) = _
    rw [hc rule (List.mem_filter.mp hm).1]
  refine (Clustered.of_equal (hgroup hcredential)).append (Clustered.of_equal (hgroup hexecution)) ?_
  intro f hf g hg he
  rw [hgroup hcredential f hf, hgroup hexecution g hg] at he
  exact absurd (RepeatKey.mk.inj he).2.1 (by decide)

theorem clustered_inspect (keywords : List String) (overrides : List (String × Severity))
    (maxFileBytes : Int) (stamp : Stamp) (path : String) (content : List Char) :
    Clustered
      ((ofCatalog (.build keywords overrides) maxFileBytes).inspect stamp path content) := by
  rw [inspect, catalog_ofCatalog_build]
  have hkeywords := Catalog.nodup_keywords_build keywords overrides
  refine Clustered.append (Clustered.of_nodup ?_) (clustered_structural _ stamp path) ?_
  · rw [List.map_map]
    have hsub := (List.filter_sublist (p := fun rule : KeywordRule =>
      Text.occursIn rule.keyword.toList content)).map (·.keyword) |>.nodup hkeywords
    rw [List.Nodup, List.pairwise_map] at hsub ⊢
    refine hsub.imp fun {a b} hne he => hne ?_
    exact Option.some.inj (RepeatKey.mk.inj he).2.2
  · intro f hf g hg he
    obtain ⟨rule, _, rfl⟩ := List.mem_map.mp hf
    obtain ⟨rule', _, rfl⟩ := List.mem_map.mp hg
    cases (RepeatKey.mk.inj he).2.2

/-- **Findings with equal keys come in a row.** -/
theorem clustered_scanFile (keywords : List String) (overrides : List (String × Severity))
    (maxFileBytes : Int) (top : Folder) (stamp : Stamp) (path : String) :
    Clustered
      ((ofCatalog (.build keywords overrides) maxFileBytes).scanFile top stamp path).2 := by
  rcases findings_scanFile (ofCatalog (.build keywords overrides) maxFileBytes) top stamp path with
    he | ⟨content, he⟩
  · rw [he]
    exact .nil
  · rw [he]
    exact clustered_inspect keywords overrides maxFileBytes stamp path content

end Built

end Detector

end SourceWatch

import SourceWatch.Proofs.Catalog.Pattern
import SourceWatch.Proofs.Detector.Findings
import SourceWatch.Proofs.Files.Resolve
import SourceWatch.Proofs.Text.Reading

/-!
# What surrounds a match

Whoever may write arbitrary bytes before and behind a suspicious text cannot hide it, as long as the file
is read at all: a keyword is reported wherever it stands, and so is what satisfies a structural rule.

Main statements:

* `Detector.read_of_readFile`, `Detector.scanFile_of_readFile`: the text of a file that is read, and the findings in it;
* `Detector.scanFile_amid_bytes`: surrounding bytes hide nothing.
-/

namespace SourceWatch

open Text

/-! ### Files that are read -/

theorem Folder.sizeOf_of_readFile {top : Folder} {path : String} {bytes : List UInt8}
    (h : top.readFile path = .ok bytes) : top.sizeOf path = .ok bytes.length := by
  unfold readFile at h
  unfold Folder.sizeOf
  split at h
  · cases h
    rfl
  · cases h
  · cases h

namespace Detector

variable {d : Detector} {top : Folder} {path : String} {bytes : List UInt8}

/-- A file that is neither too large nor binary is read as its text. -/
theorem read_of_readFile (hfile : top.readFile path = .ok bytes) (hsize : bytes.length ≤ d.maxFileBytes)
    (hnul : 0 ∉ bytes.take sniffedBytes) : d.read top path = .ok (.text (textOf bytes)) := by
  rw [read, Folder.sizeOf_of_readFile hfile]
  simp only [hfile]
  rw [if_neg (by omega), if_neg (by simpa using hnul)]

/-- A file that is neither too large nor binary yields the findings in its text. -/
theorem scanFile_of_readFile (hfile : top.readFile path = .ok bytes)
    (hsize : bytes.length ≤ d.maxFileBytes) (hnul : 0 ∉ bytes.take sniffedBytes) (stamp : Stamp) :
    d.scanFile top stamp path = ([], d.inspect stamp path (textOf bytes)) := by
  rw [scanFile, read_of_readFile hfile hsize hnul]

variable {content : List Char} {stamp : Stamp}

theorem keywordFinding_mem_inspect {rule : KeywordRule} (hm : rule ∈ d.catalog.keywordRules)
    (h : rule.keyword.toList <:+: content) :
    keywordFinding stamp path rule ∈ d.inspect stamp path content :=
  mem_inspect_iff.mpr (.inl ⟨rule, hm, h, rfl⟩)

theorem structuralFinding_mem_inspect {rule : StructuralRule}
    (hm : rule ∈ d.catalog.structuralRules) (h : rule.pattern.search content = true) :
    structuralFinding stamp path rule ∈ d.inspect stamp path content :=
  mem_inspect_iff.mpr (.inr ⟨rule, hm, h, rfl⟩)

/-! ### Texts in ASCII -/

/-- A character of ASCII that belongs to no word has no lower-case form of its own. -/
theorem lowerWith_of_not_isWordChar {c : Char} (hascii : c.toNat < 128) (hc : isWordChar c = false) :
    lowerWith false [] c = [c] := by
  have hall : ∀ n : Fin 128, isWordChar (Char.ofNat n) = false →
      lowerWith false [] (Char.ofNat n) = [Char.ofNat n] := by decide +kernel
  have h := hall ⟨c.toNat, hascii⟩
  rw [Char.ofNat_toNat] at h
  exact h hc

theorem sigma_not_mem_of_ascii {s : List Char} (h : ∀ c ∈ s, c.toNat < 128) : 'Σ' ∉ s := by
  intro hm
  exact absurd (h 'Σ' hm) (by decide)

/-- What satisfies a structural rule satisfies it whatever stands before, unless the rule is tied to the
start of a word and the text starts within one. -/
theorem searchFrom_of_ascii {rule : StructuralRule} (hm : rule ∈ structuralRules) {s : List Char}
    (hascii : ∀ c ∈ s, c.toNat < 128) (hsearch : rule.pattern.search (lower s) = true)
    (hstart : rule.name ≠ "hardcoded_api_key" ∨ ∃ c rest, s = c :: rest ∧ isWordChar c = false)
    (afterWord : Bool) : rule.pattern.searchFrom afterWord (lower s) = true := by
  rcases hstart with hname | ⟨c, rest, rfl, hc⟩
  · exact Pattern.searchFrom_of_free (atWordStart_of_mem_structuralRules hm hname) hsearch afterWord
  · have hne : c ≠ 'Σ' := fun he => absurd (he ▸ hascii c List.mem_cons_self) (by decide)
    have hlower : ∃ later, lower (c :: rest) = c :: later := by
      refine ⟨lowerFrom (if isCaseIgnorable c then false else isCased c) rest, ?_⟩
      rw [lower_eq_lowerFrom, lowerFrom, lowerWith_of_ne hne false false rest [],
        lowerWith_of_not_isWordChar (hascii c List.mem_cons_self) hc]
      rfl
    obtain ⟨later, hlater⟩ := hlower
    rw [hlater] at hsearch ⊢
    exact Pattern.searchFrom_of_not_matchesAt
      (not_matchesAt_of_mem_structuralRules hm hc false later) hsearch afterWord

/-! ### The main theorem -/

/-- **Surrounding bytes hide nothing.**  A file that has an encoded text without carriage returns in its
midst, and that is neither too large nor binary, is reported for every keyword that the text is in lower
case, and for every structural rule that the text satisfies in lower case, whatever bytes stand before
and behind.  Keywords need a text without capital sigmas, structural rules a text in ASCII; and the rule
about keys, which is tied to the start of a word, needs a text that starts outside of words. -/
theorem scanFile_amid_bytes (keywords : List String) (overrides : List (String × Severity))
    {maxFileBytes : Int} {x y : List UInt8} {s : List Char}
    (hfile : top.readFile path = .ok (x ++ Utf8.encode s ++ y))
    (hsize : (x ++ Utf8.encode s ++ y).length ≤ maxFileBytes)
    (hnul : 0 ∉ (x ++ Utf8.encode s ++ y).take sniffedBytes) (hcr : '\r' ∉ s) (stamp : Stamp) :
    let d := ofCatalog (.build keywords overrides) maxFileBytes
    ('Σ' ∉ s → ∀ rule ∈ d.catalog.keywordRules, rule.keyword = String.ofList (lower s) →
      keywordFinding stamp path rule ∈ (d.scanFile top stamp path).2) ∧
    ((∀ c ∈ s, c.toNat < 128) → ∀ rule ∈ d.catalog.structuralRules,
      rule.pattern.search (lower s) = true →
      (rule.name ≠ "hardcoded_api_key" ∨ ∃ c rest, s = c :: rest ∧ isWordChar c = false) →
      structuralFinding stamp path rule ∈ (d.scanFile top stamp path).2) := by
  intro d
  have hscan := scanFile_of_readFile (d := d) hfile hsize hnul stamp
  rw [hscan]
  constructor
  · intro hsigma rule hm hkeyword
    apply keywordFinding_mem_inspect hm
    rw [hkeyword, String.toList_ofList]
    exact infix_textOf hcr hsigma x y
  · intro hascii rule hm hsearch hstart
    apply structuralFinding_mem_inspect hm
    rw [catalog_ofCatalog_build] at hm
    exact Pattern.search_of_infix (searchFrom_of_ascii hm hascii hsearch hstart)
      (infix_textOf hcr (sigma_not_mem_of_ascii hascii) x y)

/-- A file with a call amid stray bytes. -/
def strayBytesTree : Folder :=
  [("a.py", .file ([0xC3] ++ Utf8.encode "Eval(".toList ++ [0xFF]))]

theorem scanFile_amid_stray_bytes :
    let found := (ofCatalog (.build ["EVAL("] []) 10).scanFile strayBytesTree ⟨"", ⟨0⟩, 1⟩ "a.py"
    (∃ f ∈ found.2, f.matchedKeyword = some "eval(") ∧ ∃ f ∈ found.2, f.rule = some "eval_call" := by
  have hsplit : Path.split "a.py" = ["a.py"] := by decide +kernel
  have hfile : strayBytesTree.readFile "a.py" =
      .ok ([0xC3] ++ Utf8.encode "Eval(".toList ++ [0xFF]) := by
    rw [Folder.readFile, Folder.resolve_eq_follow (by simp) (by decide +kernel) (by simp) (by simp),
      hsplit, Folder.follow, Folder.advance.eq_def]
    rfl
  have hlower : lower "Eval(".toList = "eval(".toList := by decide +kernel
  have hword : (⟨"eval(", Catalog.severityOf [] "eval("⟩ : KeywordRule) ∈
      (Catalog.build ["EVAL("] []).keywordRules := by decide +kernel
  have hcall : executionRule "eval_call" ⟨false, [Atom.call "eval"]⟩ ∈
      (Catalog.build ["EVAL("] []).structuralRules := by
    rw [Catalog.structuralRules_build]
    simp [structuralRules]
  have hascii : ∀ c ∈ "Eval(".toList, c.toNat < 128 := by simp
  obtain ⟨hkeyword, hrule⟩ :=
    @scanFile_amid_bytes strayBytesTree "a.py" ["EVAL("] [] 10 [0xC3] [0xFF] "Eval(".toList hfile
      (by decide +kernel) (by decide +kernel) (by decide +kernel) ⟨"", ⟨0⟩, 1⟩
  rw [catalog_ofCatalog_build] at hkeyword hrule
  refine ⟨⟨_, hkeyword (by decide +kernel) _ hword ?_, rfl⟩,
    ⟨_, hrule hascii _ hcall ?_ (.inl (by decide +kernel)), rfl⟩⟩
  · rw [hlower, String.ofList_toList]
  · rw [hlower]
    decide +kernel

end Detector

end SourceWatch

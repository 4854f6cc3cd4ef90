import SourceWatch.Catalog.Basic
import SourceWatch.Proofs.Text.Trimmed

/-!
# The keywords of a catalog

The keywords of a built catalog are the normal forms of the configured ones that are not blank.  They are trimmed
and in lower case, whereas the keys of the overrides are put in lower case only.  A key with a blank at an end
therefore never becomes a keyword.

Main statements:

* `Catalog.mem_normalKeywords`, `Catalog.mem_keywordRules_build`: the keywords and the rules of a built catalog;
* `lowerString_eq_iff`: which keys have a given keyword as their lower-case form.
-/

namespace SourceWatch

open Text

variable {keywords : List String} {overrides : List (String × Severity)} {key k keyword : String}

/-! ### Normal forms -/

@[simp]
theorem toList_normalKeyword (k : String) : (normalKeyword k).toList = lower (strip k.toList) :=
  String.toList_ofList

theorem isTrimmed_normalKeyword (k : String) : IsTrimmed (normalKeyword k).toList := by
  rw [toList_normalKeyword, isTrimmed_lower_iff]
  exact isTrimmed_strip _

/-- Only blank keywords have an empty normal form. -/
theorem normalKeyword_eq_empty_iff : normalKeyword k = "" ↔ strip k.toList = [] := by
  rw [← String.toList_inj, toList_normalKeyword, String.toList_empty, lower_eq_nil_iff]

/-- A trimmed key has its lower-case form as its normal form. -/
theorem normalKeyword_of_isTrimmed (h : IsTrimmed k.toList) : normalKeyword k = lowerString k := by
  rw [normalKeyword, strip_eq_self_iff.mpr h, lowerString]

/-- **Which keys have a keyword as their lower-case form:** the trimmed ones of which it is the normal form. -/
theorem lowerString_eq_iff (h : IsTrimmed keyword.toList) :
    lowerString key = keyword ↔ IsTrimmed key.toList ∧ normalKeyword key = keyword := by
  constructor
  · intro he
    have hkey : IsTrimmed key.toList := by
      rw [← he, lowerString, String.toList_ofList] at h
      exact isTrimmed_lower_iff.mp h
    exact ⟨hkey, (normalKeyword_of_isTrimmed hkey).trans he⟩
  · rintro ⟨hkey, he⟩
    exact (normalKeyword_of_isTrimmed hkey).symm.trans he

namespace Catalog

theorem mem_normalKeywords :
    keyword ∈ normalKeywords keywords ↔ keyword ≠ "" ∧ ∃ k ∈ keywords, normalKeyword k = keyword := by
  rw [normalKeywords, List.mem_eraseDups, List.mem_filter, List.mem_map, decide_eq_true_eq, and_comm]

theorem isTrimmed_of_mem_normalKeywords (h : keyword ∈ normalKeywords keywords) :
    IsTrimmed keyword.toList := by
  obtain ⟨-, k, -, rfl⟩ := mem_normalKeywords.mp h
  exact isTrimmed_normalKeyword k

/-- The rules of a built catalog. -/
theorem mem_keywordRules_build {rule : KeywordRule} :
    rule ∈ (build keywords overrides).keywordRules ↔
      rule.keyword ∈ normalKeywords keywords ∧
        rule.severity = severityOf (overrideTable overrides) rule.keyword := by
  rw [build, List.mem_map]
  constructor
  · rintro ⟨keyword, hkeyword, rfl⟩
    exact ⟨hkeyword, rfl⟩
  · rintro ⟨hkeyword, hseverity⟩
    refine ⟨rule.keyword, hkeyword, ?_⟩
    rw [← hseverity]

end Catalog

end SourceWatch

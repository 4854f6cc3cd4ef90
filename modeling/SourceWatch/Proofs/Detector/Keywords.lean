import SourceWatch.Proofs.Catalog.Keywords
import SourceWatch.Proofs.Detector.Findings

/-!
# Where a configured keyword is found

A configured keyword is put in lower case by itself, and a file as a whole.  A capital sigma has two lower-case forms,
and which of them it gets depends on its surroundings.  So a configured keyword is found in every text that holds it
if and only if its sigmas are settled by the keyword itself; in particular if it has none.

Main definition: `Detector.ReportsKeyword`, a finding in a text is about a keyword.

Main statements:

* `Detector.reportsKeyword_iff`: the keywords that are reported are those of the catalog that occur;
* `Detector.reportsKeyword_everywhere_iff`: the configured keywords that are found wherever they occur.
-/

namespace SourceWatch

open Text

namespace Detector

/-- Among the findings in a text there is one about a keyword. -/
def ReportsKeyword (d : Detector) (stamp : Stamp) (path : String) (content : List Char) (keyword : String) : Prop :=
  ∃ f ∈ d.inspect stamp path content, f.matchedKeyword = some keyword

variable {d : Detector} {stamp : Stamp} {path : String} {content : List Char} {keywords : List String}
  {overrides : List (String × Severity)} {maxFileBytes : ℤ} {k keyword : String}

/-- **The keywords that are reported** are those of the catalog that occur in the text. -/
theorem reportsKeyword_iff : d.ReportsKeyword stamp path content keyword ↔
    (∃ rule ∈ d.catalog.keywordRules, rule.keyword = keyword) ∧ keyword.toList <:+: content := by
  constructor
  · rintro ⟨f, hf, hkeyword⟩
    obtain ⟨rule, hmem, hoccurs, rfl⟩ | ⟨rule, -, -, rfl⟩ := mem_inspect_iff.mp hf
    · obtain rfl := Option.some.inj hkeyword
      exact ⟨⟨rule, hmem, rfl⟩, hoccurs⟩
    · -- a structural finding is about no keyword
      cases hkeyword
  · rintro ⟨⟨rule, hmem, rfl⟩, hoccurs⟩
    exact ⟨_, mem_inspect_iff.mpr (.inl ⟨rule, hmem, hoccurs, rfl⟩), rfl⟩

/-- A configured keyword that is not blank is reported in the texts that hold its normal form. -/
theorem reportsKeyword_build_iff (hk : k ∈ keywords) (hblank : strip k.toList ≠ []) :
    (ofCatalog (.build keywords overrides) maxFileBytes).ReportsKeyword stamp path content (normalKeyword k) ↔
      lower (strip k.toList) <:+: content := by
  have hmem : normalKeyword k ∈ Catalog.normalKeywords keywords :=
    Catalog.mem_normalKeywords.mpr ⟨fun he => hblank (normalKeyword_eq_empty_iff.mp he), k, hk, rfl⟩
  have hrule : ∃ rule ∈ (Catalog.build keywords overrides).keywordRules, rule.keyword = normalKeyword k :=
    ⟨⟨normalKeyword k, Catalog.severityOf (Catalog.overrideTable overrides) (normalKeyword k)⟩,
      Catalog.mem_keywordRules_build.mpr ⟨hmem, rfl⟩, rfl⟩
  rw [reportsKeyword_iff, catalog_ofCatalog_build, toList_normalKeyword]
  exact and_iff_right hrule

/-- **The configured keywords that are found wherever they occur** are those whose sigmas are settled. -/
theorem reportsKeyword_everywhere_iff (hk : k ∈ keywords) (hblank : strip k.toList ≠ [])
    (overrides : List (String × Severity)) (maxFileBytes : ℤ) (stamp : Stamp) (path : String) :
    (∀ t, strip k.toList <:+: t →
        (ofCatalog (.build keywords overrides) maxFileBytes).ReportsKeyword stamp path (lower t)
          (normalKeyword k)) ↔
      SigmasSettled (strip k.toList) := by
  simp only [reportsKeyword_build_iff hk hblank]
  constructor
  · intro hall
    by_contra hunsettled
    obtain ⟨t, hinfix, hlost⟩ := exists_not_infix_lower hunsettled
    exact hlost (hall t hinfix)
  · intro hsettled t hinfix
    exact infix_lower_of_settled hsettled hinfix

/-- The sigma of this keyword is settled by the letter behind it. -/
theorem reportsKeyword_everywhere_sigmaFirst :
    " ΣΑ " ∈ [" ΣΑ "] ∧ strip " ΣΑ ".toList ≠ [] ∧ ∀ t, strip " ΣΑ ".toList <:+: t →
      (ofCatalog (.build [" ΣΑ "] []) defaultMaxFileBytes).ReportsKeyword ⟨"", ⟨0⟩, 0⟩ "a.py" (lower t)
        (normalKeyword " ΣΑ ") := by
  have hmem : " ΣΑ " ∈ [" ΣΑ "] := List.mem_singleton_self _
  have hblank : strip " ΣΑ ".toList ≠ [] := by decide +kernel
  have hsettled : SigmasSettled (strip " ΣΑ ".toList) := by decide +kernel
  exact ⟨hmem, hblank, (reportsKeyword_everywhere_iff hmem hblank [] _ _ _).mpr hsettled⟩

/-- The sigma of this keyword is not settled: it is final in the keyword and not final in a text that holds it. -/
theorem not_reportsKeyword_sigmaLast :
    strip "ΑΣ".toList <:+: "ΑΣΑ".toList ∧ ¬ (ofCatalog (.build ["ΑΣ"] []) defaultMaxFileBytes).ReportsKeyword
      ⟨"", ⟨0⟩, 0⟩ "a.py" (lower "ΑΣΑ".toList) (normalKeyword "ΑΣ") := by
  have hblank : strip "ΑΣ".toList ≠ [] := by decide +kernel
  rw [reportsKeyword_build_iff (List.mem_singleton_self _) hblank]
  decide +kernel

end Detector

end SourceWatch

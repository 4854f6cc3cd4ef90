import SourceWatch.Proofs.Association
import SourceWatch.Proofs.Catalog.Keywords

/-!
# The severities of a catalog

An override names a keyword if its key is trimmed and has the keyword as its normal form.  Of the overrides that
name a keyword the last one gives it its severity, and a keyword that none of them names has the stock severity.
Configured keywords are trimmed and keys are not, so an override whose key has a blank at an end names no keyword,
not even the one that is configured with the same blanks.

Main definitions:

* `Names`: the key of an override names a keyword;
* `OverridesReach`: what the overrides do to the severities of a catalog.

Main statement: `Catalog.overridesReach`, they do so to every catalog.
-/

namespace SourceWatch

open Text

/-- The key of an override names a keyword: it is trimmed, and the keyword is its normal form. -/
def Names (key keyword : String) : Prop :=
  strip key.toList = key.toList ∧ normalKeyword key = keyword

instance (key keyword : String) : Decidable (Names key keyword) :=
  inferInstanceAs (Decidable (_ ∧ _))

/-- **What overrides do.**  The last override that names a keyword gives it its severity, and all others have none
of their own. -/
structure OverridesReach (keywords : List String) (overrides : List (String × Severity)) : Prop where
  /-- The last override that names a keyword gives it its severity. -/
  given : ∀ rule ∈ (Catalog.build keywords overrides).keywordRules, ∀ before key severity after,
    overrides = before ++ (key, severity) :: after → Names key rule.keyword →
    (∀ o ∈ after, ¬ Names o.1 rule.keyword) → rule.severity = severity
  /-- A keyword that no override names has its stock severity. -/
  stock : ∀ rule ∈ (Catalog.build keywords overrides).keywordRules,
    (∀ o ∈ overrides, ¬ Names o.1 rule.keyword) → rule.severity = Severity.ofKeyword rule.keyword
  /-- A trimmed keyword is named by a key that is spelled as it is. -/
  asConfigured : ∀ k ∈ keywords, k ≠ "" → strip k.toList = k.toList → ∀ before severity after,
    overrides = before ++ (k, severity) :: after → (∀ o ∈ after, ¬ Names o.1 (normalKeyword k)) →
    ⟨normalKeyword k, severity⟩ ∈ (Catalog.build keywords overrides).keywordRules
  /-- Keys with a blank at an end play no part. -/
  padded : Catalog.build keywords overrides =
    Catalog.build keywords (overrides.filter fun o => strip o.1.toList = o.1.toList)

variable {keywords : List String} {overrides before after : List (String × Severity)} {severity : Severity}
  {key keyword : String}

/-- An override names a keyword if it has the keyword as its lower-case form. -/
theorem names_iff (h : IsTrimmed keyword.toList) : Names key keyword ↔ lowerString key = keyword := by
  rw [lowerString_eq_iff h, Names, strip_eq_self_iff]

namespace Catalog

/-- The last override with a lower-case form determines the severity of the keyword that has this form. -/
theorem severityOf_overrideTable (overrides : List (String × Severity)) (keyword : String) :
    severityOf (overrideTable overrides) keyword =
      ((overrides.reverse.find? fun o => lowerString o.1 = keyword).map (·.2)).getD
        (Severity.ofKeyword keyword) := by
  rw [severityOf, overrideTable, Association.get?_ofPairs_eq_find?, ← List.map_reverse, List.find?_map,
    Option.map_map]
  rfl

/-- **The last override that names a keyword** determines its severity. -/
theorem severityOf_eq_find? (h : IsTrimmed keyword.toList) (overrides : List (String × Severity)) :
    severityOf (overrideTable overrides) keyword =
      ((overrides.reverse.find? fun o => Names o.1 keyword).map (·.2)).getD (Severity.ofKeyword keyword) := by
  simp only [severityOf_overrideTable, names_iff h]

theorem severityOf_of_last (h : IsTrimmed keyword.toList) (hkey : Names key keyword)
    (hafter : ∀ o ∈ after, ¬ Names o.1 keyword) :
    severityOf (overrideTable (before ++ (key, severity) :: after)) keyword = severity := by
  have hnone : after.reverse.find? (fun o => Names o.1 keyword) = none := by
    simpa using hafter
  have hfirst : decide (Names (key, severity).1 keyword) = true := decide_eq_true hkey
  rw [severityOf_eq_find? h, List.reverse_append, List.reverse_cons, List.append_assoc, List.find?_append, hnone,
    Option.none_or, List.singleton_append, List.find?_cons, hfirst]
  rfl

theorem severityOf_of_none (h : IsTrimmed keyword.toList) (hnone : ∀ o ∈ overrides, ¬ Names o.1 keyword) :
    severityOf (overrideTable overrides) keyword = Severity.ofKeyword keyword := by
  have hfind : overrides.reverse.find? (fun o => Names o.1 keyword) = none := by
    simpa using hnone
  rw [severityOf_eq_find? h, hfind]
  rfl

/-- Keys that are not trimmed name no keyword. -/
theorem severityOf_filter (h : IsTrimmed keyword.toList) (overrides : List (String × Severity)) :
    severityOf (overrideTable (overrides.filter fun o => strip o.1.toList = o.1.toList)) keyword =
      severityOf (overrideTable overrides) keyword := by
  have hboth : ∀ o : String × Severity,
      strip o.1.toList = o.1.toList ∧ Names o.1 keyword ↔ Names o.1 keyword :=
    fun o => ⟨And.right, fun hnames => ⟨hnames.1, hnames⟩⟩
  simp only [severityOf_eq_find? h, ← List.filter_reverse, List.find?_filter, decide_eq_true_eq, hboth]

/-- **The overrides reach the keywords that they name,** and no others. -/
theorem overridesReach (keywords : List String) (overrides : List (String × Severity)) :
    OverridesReach keywords overrides where
  given := by
    rintro rule hrule before key severity after rfl hkey hafter
    obtain ⟨hkeyword, hseverity⟩ := mem_keywordRules_build.mp hrule
    rw [hseverity, severityOf_of_last (isTrimmed_of_mem_normalKeywords hkeyword) hkey hafter]
  stock := by
    intro rule hrule hnone
    obtain ⟨hkeyword, hseverity⟩ := mem_keywordRules_build.mp hrule
    rw [hseverity, severityOf_of_none (isTrimmed_of_mem_normalKeywords hkeyword) hnone]
  asConfigured := by
    rintro k hk hne htrimmed before severity after rfl hafter
    have hnormal : normalKeyword k ≠ "" := by
      rw [Ne, normalKeyword_eq_empty_iff, htrimmed, String.toList_eq_nil_iff]
      exact hne
    rw [mem_keywordRules_build, mem_normalKeywords]
    exact ⟨⟨hnormal, k, hk, rfl⟩, (severityOf_of_last (isTrimmed_normalKeyword k) ⟨htrimmed, rfl⟩ hafter).symm⟩
  padded := by
    have hsame : ∀ keyword ∈ normalKeywords keywords,
        severityOf (overrideTable (overrides.filter fun o => strip o.1.toList = o.1.toList)) keyword =
          severityOf (overrideTable overrides) keyword :=
      fun _ hkeyword => severityOf_filter (isTrimmed_of_mem_normalKeywords hkeyword) overrides
    rw [build, build, Catalog.mk.injEq]
    exact ⟨List.map_congr_left fun keyword hkeyword => by rw [hsame keyword hkeyword], rfl⟩

/-- The override with the spelling of the configured keyword does not reach it. -/
theorem override_misses_padded :
    normalKeyword " aws " = "aws" ∧
      (build [" aws "] [(" aws ", .low)]).keywordRules = [⟨"aws", .medium⟩] := by
  decide +kernel

end Catalog

end SourceWatch

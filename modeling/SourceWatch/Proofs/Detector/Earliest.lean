import SourceWatch.Proofs.Catalog.Language
import SourceWatch.Proofs.Ledger.Firsts

/-!
# The earliest rule of a category

The structural findings of one category in one file share their key, so the first of them is that of the
earliest rule of the category that the text satisfies.  The rule about `shell_exec` is never the earliest one,
for the rule about `exec` comes before it and is satisfied whenever it is.

Main statements:

* `Detector.eq_structuralFinding_of_isFirst`: the first finding of a key is that of the earliest rule;
* `name_ne_of_earliest`: the rule about `shell_exec` is never the earliest.
-/

namespace SourceWatch

/-- The first of the structural rules of a category that a text satisfies. -/
def earliestRule? (category : String) (t : List Char) : Option StructuralRule :=
  structuralRules.find? fun rule => rule.category = category ∧ rule.pattern.search t

variable {t : List Char} {rule : StructuralRule} {category : String}

theorem mem_of_earliestRule? (h : earliestRule? category t = some rule) : rule ∈ structuralRules :=
  List.mem_of_find?_eq_some h

theorem search_of_earliestRule? (h : earliestRule? category t = some rule) :
    rule.category = category ∧ rule.pattern.search t = true := by
  have hrule := List.find?_some h
  rwa [decide_eq_true_eq] at hrule

theorem category_ne_of_mem (h : rule ∈ structuralRules) : rule.category ≠ keywordCategory := by
  rcases category_of_mem_structuralRules h with hc | hc
  · rw [hc]
    decide
  · rw [hc]
    decide

/-- Before the rule about `shell_exec` comes the one about `exec`, and no other rule has its name. -/
theorem structuralRules_shellExec :
    executionRule "exec_call" ⟨false, [Atom.call "exec"]⟩ ∈ structuralRules.take 7 ∧
      (∀ rule ∈ structuralRules.take 7, rule.name ≠ "shell_exec_call") ∧
      ∀ rule ∈ structuralRules.drop 7, rule.category = executionCategory := by
  refine ⟨?_, ?_, ?_⟩ <;> simp [structuralRules, executionRule, credentialRule]

/-- **The rule about `shell_exec` is never the earliest** of its category. -/
theorem name_ne_of_earliest (h : earliestRule? category t = some rule) :
    rule.name ≠ "shell_exec_call" := by
  intro hname
  obtain ⟨hmem, hothers, hlast⟩ := structuralRules_shellExec
  obtain ⟨hcategory, hsearch⟩ := search_of_earliestRule? h
  have hin := mem_of_earliestRule? h
  -- the text satisfies the rule about `exec` as well
  have hshell := (mem_satisfiedRules_iff rule hin).mpr hsearch
  rw [hname] at hshell
  have hexec := (mem_satisfiedRules_iff _ (List.mem_of_mem_take hmem)).mp (exec_of_shellExec hshell)
  have hlate : rule ∈ structuralRules.drop 7 := by
    rw [← List.take_append_drop 7 structuralRules] at hin
    exact (List.mem_append.mp hin).resolve_left fun hearly => hothers rule hearly hname
  have hearlier : ((structuralRules.take 7).find? fun rule =>
      rule.category = category ∧ rule.pattern.search t).isSome = true := by
    rw [List.find?_isSome]
    exact ⟨_, hmem, decide_eq_true ⟨(hlast rule hlate).symm.trans hcategory, hexec⟩⟩
  obtain ⟨other, hother⟩ := Option.isSome_iff_exists.mp hearlier
  rw [earliestRule?, ← List.take_append_drop 7 structuralRules, List.find?_append, hother] at h
  exact hothers rule (List.mem_of_find?_eq_some (hother.trans h)) hname

namespace Detector

variable {keywords : List String} {overrides : List (String × Severity)} {maxFileBytes : Int}
  {stamp : Stamp} {path : String} {f : Finding}

/-- A finding in a text is that of a keyword or that of a structural rule. -/
theorem mem_inspect (h : f ∈ (ofCatalog (.build keywords overrides) maxFileBytes).inspect stamp path t) :
    f.category = keywordCategory ∧ f.rule = none ∨
      ∃ rule ∈ structuralRules, f = structuralFinding stamp path rule := by
  obtain ⟨rule, -, -, rfl⟩ | ⟨rule, hrule, -, rfl⟩ := mem_inspect_iff.mp h
  · exact .inl ⟨rfl, rfl⟩
  · rw [catalog_ofCatalog_build] at hrule
    exact .inr ⟨rule, hrule, rfl⟩

/-- **The first finding of a key** is that of the earliest rule of its category, unless it is about a
keyword. -/
theorem eq_structuralFinding_of_isFirst
    (h : IsFirst ((ofCatalog (.build keywords overrides) maxFileBytes).inspect stamp path t) f)
    (hf : f.category ≠ keywordCategory) :
    ∃ rule, earliestRule? f.category t = some rule ∧ f = structuralFinding stamp path rule := by
  obtain ⟨hc, -⟩ | ⟨own, -, rfl⟩ := mem_inspect h.mem
  · exact absurd hc hf
  rw [IsFirst, inspect, catalog_ofCatalog_build, Catalog.structuralRules_build, List.find?_append] at h
  -- no finding of a keyword has the key of a structural finding
  have hkeywords : ∀ rules : List KeywordRule, (rules.map (keywordFinding stamp path)).find?
      (·.key = (structuralFinding stamp path own).key) = none := by
    intro rules
    simp [keywordFinding, structuralFinding, Finding.key]
  rw [hkeywords, Option.none_or, List.find?_map, List.find?_filter, Option.map_eq_some_iff] at h
  obtain ⟨rule, hrule, he⟩ := h
  refine ⟨rule, Eq.trans ?_ hrule, he.symm⟩
  rw [earliestRule?]
  congr 1
  funext rule
  refine decide_eq_decide.mpr ?_
  simp only [Function.comp_apply, decide_eq_true_eq]
  simp [structuralFinding, Finding.key, and_comm]

/-- The first finding of a key is never about `shell_exec`. -/
theorem rule_ne_of_isFirst
    (h : IsFirst ((ofCatalog (.build keywords overrides) maxFileBytes).inspect stamp path t) f) :
    f.rule ≠ some "shell_exec_call" := by
  intro he
  obtain ⟨-, hnone⟩ | ⟨own, hown, rfl⟩ := mem_inspect h.mem
  · rw [hnone] at he
    cases he
  · obtain ⟨rule, hrule, hf⟩ := eq_structuralFinding_of_isFirst h (category_ne_of_mem hown)
    rw [hf] at he
    exact name_ne_of_earliest hrule (Option.some.inj he)

end Detector

end SourceWatch

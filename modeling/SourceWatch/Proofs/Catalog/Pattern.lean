import SourceWatch.Catalog.Rule

/-!
# Patterns in a context

A pattern that is found in a text is found in every longer text that continues it.  What stands before
the text matters only to a pattern that is tied to the start of a word, and even then only to a match at
the very start.

Main statements:

* `Pattern.searchFrom_append`: the text goes on behind;
* `Pattern.search_of_infix`: the text stands somewhere in another.
-/

namespace SourceWatch

open Text

/-! ### A text that goes on -/

variable {next : List Char → Bool} {holds : Char → Bool} {cs more : List Char}

theorem manyThen_append (hnext : ∀ cs, next cs = true → next (cs ++ more) = true)
    (h : manyThen holds next cs = true) : manyThen holds next (cs ++ more) = true := by
  induction cs with
  | nil =>
    have hmore := hnext [] h
    rw [List.nil_append] at hmore ⊢
    cases more with
    | nil => exact hmore
    | cons c more => rw [manyThen, hmore, Bool.true_or]
  | cons c cs ih =>
    rw [manyThen, Bool.or_eq_true, Bool.and_eq_true] at h
    rw [List.cons_append, manyThen, Bool.or_eq_true, Bool.and_eq_true]
    exact h.imp (hnext (c :: cs)) fun h => ⟨h.1, ih h.2⟩

theorem atLeastThen_append (hnext : ∀ cs, next cs = true → next (cs ++ more) = true) {count : Nat}
    (h : atLeastThen holds next count cs = true) :
    atLeastThen holds next count (cs ++ more) = true := by
  induction count generalizing cs with
  | zero =>
    rw [atLeastThen] at h ⊢
    exact manyThen_append hnext h
  | succ count ih =>
    cases cs with
    | nil => cases h
    | cons c cs =>
      rw [atLeastThen, Bool.and_eq_true] at h
      rw [List.cons_append, atLeastThen, Bool.and_eq_true]
      exact ⟨h.1, ih h.2⟩

theorem matchesThen_append (hnext : ∀ cs, next cs = true → next (cs ++ more) = true)
    (atoms : List Atom) {cs : List Char} (h : matchesThen next atoms cs = true) :
    matchesThen next atoms (cs ++ more) = true := by
  induction atoms generalizing cs with
  | nil =>
    rw [matchesThen] at h ⊢
    exact hnext cs h
  | cons atom atoms ih =>
    cases atom with
    | one holds =>
      cases cs with
      | nil => cases h
      | cons c cs =>
        rw [matchesThen, Bool.and_eq_true] at h
        rw [List.cons_append, matchesThen, Bool.and_eq_true]
        exact ⟨h.1, ih h.2⟩
    | atLeast count holds =>
      rw [matchesThen] at h ⊢
      exact atLeastThen_append (fun cs h => ih h) h

/-- A text that starts with a sequence of atoms still does when it goes on. -/
theorem startsWith_append {atoms : List Atom} (h : startsWith atoms cs = true) :
    startsWith atoms (cs ++ more) = true :=
  matchesThen_append (fun _ _ => rfl) atoms h

namespace Pattern

variable {p : Pattern} {afterWord : Bool}

theorem matchesAt_iff : p.matchesAt afterWord cs = true ↔
    (p.atWordStart && afterWord) = false ∧ ∃ atoms ∈ p.alternatives, startsWith atoms cs = true := by
  rw [matchesAt, Bool.and_eq_true, Bool.not_eq_true', List.any_eq_true]

theorem searchFrom_of_matchesAt (h : p.matchesAt afterWord cs = true) :
    p.searchFrom afterWord cs = true := by
  cases cs with
  | nil => exact h
  | cons c cs => rw [searchFrom, h, Bool.true_or]

theorem matchesAt_append (h : p.matchesAt afterWord cs = true) (more : List Char) :
    p.matchesAt afterWord (cs ++ more) = true := by
  rw [matchesAt_iff] at h ⊢
  obtain ⟨hword, atoms, hm, hstart⟩ := h
  exact ⟨hword, atoms, hm, startsWith_append hstart⟩

/-- **A pattern is still found when the text goes on.** -/
theorem searchFrom_append (h : p.searchFrom afterWord cs = true) (more : List Char) :
    p.searchFrom afterWord (cs ++ more) = true := by
  induction cs generalizing afterWord with
  | nil => exact searchFrom_of_matchesAt (matchesAt_append h more)
  | cons c cs ih =>
    rw [searchFrom, Bool.or_eq_true] at h
    rw [List.cons_append, searchFrom, Bool.or_eq_true]
    exact h.imp (fun h => matchesAt_append h more) ih

/-! ### A text that stands somewhere -/

/-- A pattern that is found whether or not a word character stands before the text is found behind any
other text. -/
theorem searchFrom_append_left (h : ∀ afterWord, p.searchFrom afterWord cs = true)
    (before : List Char) (afterWord : Bool) : p.searchFrom afterWord (before ++ cs) = true := by
  induction before generalizing afterWord with
  | nil => exact h afterWord
  | cons c before ih => rw [List.cons_append, searchFrom, ih, Bool.or_true]

/-- **A pattern is found wherever the text stands**, if it is found whether or not a word character stands
before the text. -/
theorem search_of_infix {content : List Char} (h : ∀ afterWord, p.searchFrom afterWord cs = true)
    (hi : cs <:+: content) : p.search content = true := by
  obtain ⟨before, after, rfl⟩ := hi
  exact searchFrom_append (searchFrom_append_left h before false) after

/-- A pattern that is not tied to the start of a word does not look at what stands before. -/
theorem searchFrom_of_free (hp : p.atWordStart = false) (h : p.search cs = true)
    (afterWord : Bool) : p.searchFrom afterWord cs = true := by
  have hat : ∀ cs, p.matchesAt afterWord cs = p.matchesAt false cs := by
    intro cs
    rw [matchesAt, matchesAt, hp, Bool.false_and, Bool.false_and]
  rw [search] at h
  cases cs with
  | nil => rwa [searchFrom, hat]
  | cons c cs => rwa [searchFrom, hat]

/-- What stands before a text does not matter if no match begins at its start. -/
theorem searchFrom_of_not_matchesAt {c : Char} (hp : p.matchesAt false (c :: cs) = false)
    (h : p.search (c :: cs) = true) (afterWord : Bool) : p.searchFrom afterWord (c :: cs) = true := by
  rw [search, searchFrom, hp, Bool.false_or] at h
  rw [searchFrom, h, Bool.or_true]

end Pattern

/-! ### The structural rules -/

/-- Only the rule about keys is tied to the start of a word. -/
theorem atWordStart_of_mem_structuralRules {rule : StructuralRule} (h : rule ∈ structuralRules)
    (hname : rule.name ≠ "hardcoded_api_key") : rule.pattern.atWordStart = false := by
  simp only [structuralRules, List.mem_cons, List.not_mem_nil, or_false] at h
  rcases h with rfl | rfl | rfl | rfl | rfl | rfl | rfl | rfl
  all_goals first | rfl | exact absurd rfl hname

/-- Every structural rule looks for a word first. -/
theorem exists_letter_of_mem_structuralRules {rule : StructuralRule} (h : rule ∈ structuralRules)
    {atoms : List Atom} (hm : atoms ∈ rule.pattern.alternatives) :
    ∃ letter rest, atoms = .one (· = letter) :: rest ∧ isWordChar letter = true := by
  have hword : ∀ letter ∈ ['p', 'k', 'a', 's', 't', 'h', 'e'], isWordChar letter = true :=
    List.all_eq_true.mp (by decide +kernel)
  simp only [structuralRules, List.mem_cons, List.not_mem_nil, or_false] at h
  rcases h with rfl | rfl | rfl | rfl | rfl | rfl | rfl | rfl
  all_goals
    simp only [credentialRule, executionRule, List.map_cons, List.map_nil, List.mem_cons,
      List.not_mem_nil, or_false] at hm
  · subst hm
    exact ⟨'p', _, rfl, hword _ (by simp)⟩
  · rcases hm with rfl | rfl | rfl | rfl
    · exact ⟨'k', _, rfl, hword _ (by simp)⟩
    all_goals exact ⟨'a', _, rfl, hword _ (by simp)⟩
  · subst hm
    exact ⟨'s', _, rfl, hword _ (by simp)⟩
  · subst hm
    exact ⟨'t', _, rfl, hword _ (by simp)⟩
  · rcases hm with rfl | rfl
    all_goals exact ⟨'h', _, rfl, hword _ (by simp)⟩
  · subst hm
    exact ⟨'e', _, rfl, hword _ (by simp)⟩
  · subst hm
    exact ⟨'e', _, rfl, hword _ (by simp)⟩
  · subst hm
    exact ⟨'s', _, rfl, hword _ (by simp)⟩

/-- No match of a structural rule begins at a character that belongs to no word. -/
theorem not_matchesAt_of_mem_structuralRules {rule : StructuralRule} (h : rule ∈ structuralRules)
    {c : Char} (hc : isWordChar c = false) (afterWord : Bool) (cs : List Char) :
    rule.pattern.matchesAt afterWord (c :: cs) = false := by
  rw [Bool.eq_false_iff, ne_eq, Pattern.matchesAt_iff]
  rintro ⟨-, atoms, hm, hstart⟩
  obtain ⟨letter, rest, rfl, hletter⟩ := exists_letter_of_mem_structuralRules h hm
  rw [startsWith, matchesThen, Bool.and_eq_true, decide_eq_true_eq] at hstart
  rw [hstart.1, hletter] at hc
  cases hc

end SourceWatch

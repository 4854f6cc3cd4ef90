import SourceWatch.Proofs.Catalog.Language
import Mathlib.Data.List.TakeWhile

/-!
# Which quoted values are caught

The rules about credentials look for a value that is long enough between two quotation marks.  They take the
value to end at the first mark of either kind, so what counts is not the length of the value but of its start
up to the first mark in it.

Main definitions:

* `credentialWords`: the words whose values are looked for, with their rules and the least lengths;
* `unquotedStart`: a value up to the first quotation mark in it.

Main statements:

* `catches_quoted_value`: an assignment is caught if and only if its value has a start that is long enough;
* `misses_value_with_other_mark`: a value that is long enough is missed if the other mark stands early in it.
-/

namespace SourceWatch

open Text

/-- The words whose values are looked for: the rule, the word, and the least number of characters. -/
def credentialWords : List (String × String × ℕ) :=
  [("hardcoded_password", "password", 8), ("hardcoded_api_key", "key", 20),
    ("hardcoded_api_key", "apikey", 20), ("hardcoded_api_key", "api_key", 20),
    ("hardcoded_api_key", "api-key", 20), ("hardcoded_secret", "secret", 16),
    ("hardcoded_token", "token", 20)]

/-- A value up to the first quotation mark in it, of either kind. -/
def unquotedStart (v : List Char) : List Char :=
  v.takeWhile fun c => !Atom.isQuote c

/-! ### Runs of a class -/

variable {α : Type} {p : α → Bool}

/-- What stands behind a character outside a class plays no part in the run of the class before it. -/
theorem takeWhile_append_cons {c : α} (hc : p c = false) (xs rest : List α) :
    (xs ++ c :: rest).takeWhile p = xs.takeWhile p := by
  induction xs with
  | nil => simp [hc]
  | cons x xs ih =>
    rw [List.cons_append, List.takeWhile_cons, List.takeWhile_cons, ih]

/-- A run of a class and the character that ends it are told from what follows. -/
theorem append_cons_inj_of_run {run run' rest rest' : List α} {c c' : α}
    (hrun : ∀ d ∈ run, p d = true) (hrun' : ∀ d ∈ run', p d = true) (hc : p c = false)
    (hc' : p c' = false) (h : run ++ c :: rest = run' ++ c' :: rest') :
    run = run' ∧ c = c' ∧ rest = rest' := by
  have hsame : run = run' := by
    have htake := congrArg (List.takeWhile p) h
    rwa [takeWhile_append_cons hc, takeWhile_append_cons hc', List.takeWhile_eq_self_iff.mpr hrun,
      List.takeWhile_eq_self_iff.mpr hrun'] at htake
  subst hsame
  obtain ⟨rfl, rfl⟩ := List.cons.inj (List.append_cancel_left h)
  exact ⟨rfl, rfl, rfl⟩

/-! ### The start of a value -/

theorem unquotedStart_cons_of_mark {c : Char} (h : IsQuotationMark c) (v : List Char) :
    unquotedStart (c :: v) = [] :=
  List.takeWhile_cons_of_neg (by simp [isQuote_iff.mpr h])

theorem unquotedStart_cons_of_not_mark {c : Char} (h : ¬ IsQuotationMark c) (v : List Char) :
    unquotedStart (c :: v) = c :: unquotedStart v :=
  List.takeWhile_cons_of_pos (by simpa [← isQuote_iff] using h)

theorem unquoted_unquotedStart (v : List Char) : Unquoted (unquotedStart v) :=
  unquoted_iff.mp fun _ hc => List.mem_takeWhile_imp (p := fun c => !Atom.isQuote c) hc

theorem unquotedStart_of_unquoted {v : List Char} (h : Unquoted v) : unquotedStart v = v :=
  List.takeWhile_eq_self_iff.mpr (unquoted_iff.mpr h)

/-- What stands behind a quotation mark plays no part in the start of a value. -/
theorem unquotedStart_append_cons {q : Char} (hq : IsQuotationMark q) (v rest : List Char) :
    unquotedStart (v ++ q :: rest) = unquotedStart v :=
  takeWhile_append_cons (p := fun c => !Atom.isQuote c) (by simp [isQuote_iff.mpr hq]) v rest

/-- Behind the start of a value that a quotation mark ends, there is a quotation mark. -/
theorem exists_mark_behind_unquotedStart {q : Char} (hq : IsQuotationMark q) (v after : List Char) :
    ∃ mark rest, IsQuotationMark mark ∧ v ++ q :: after = unquotedStart v ++ mark :: rest := by
  induction v with
  | nil => exact ⟨q, after, hq, rfl⟩
  | cons c v ih =>
    by_cases hc : IsQuotationMark c
    · refine ⟨c, v ++ q :: after, hc, ?_⟩
      rw [unquotedStart_cons_of_mark hc]
      rfl
    · obtain ⟨mark, rest, hmark, h⟩ := ih
      refine ⟨mark, rest, hmark, ?_⟩
      rw [unquotedStart_cons_of_not_mark hc, List.cons_append, h, List.cons_append]

theorem isBlank_of_isSeparator {c : Char} (h : c = ':' ∨ c = '=') : isBlank c = false := by
  rcases h with rfl | rfl <;> rfl

theorem isBlank_of_isQuotationMark {c : Char} (h : IsQuotationMark c) : isBlank c = false := by
  rcases h with rfl | rfl <;> rfl

/-! ### Assignments in a text -/

section Assigned

variable {name word : String} {least : ℕ} {before after s₁ s₂ v : List Char} {sign q : Char}

/-- An assignment satisfies its rule wherever it stands, or where a word may start. -/
theorem mem_satisfiedRules_of_isAssignment (hrule : (name, word, least) ∈ credentialWords)
    {m : List Char} (hm : IsAssignment word least m)
    (hbefore : name = "hardcoded_api_key" → OutsideWord before) :
    name ∈ satisfiedRules (before ++ m ++ after) := by
  have hfree : credentialRule name ⟨false, [Atom.assignment word least]⟩ ∈ structuralRules →
      name ∈ satisfiedRules (before ++ m ++ after) := fun h =>
    (mem_satisfiedRules_iff_isAssignment _ _ _ h).mpr ⟨m, ⟨before, after, rfl⟩, hm⟩
  have hkey : name = "hardcoded_api_key" → word ∈ ["key", "apikey", "api_key", "api-key"] →
      least = 20 → name ∈ satisfiedRules (before ++ m ++ after) := by
    rintro rfl hword rfl
    exact mem_satisfiedRules_iff_isKey.mpr ⟨before, m, after, word, rfl, hword, hm, hbefore rfl⟩
  simp only [credentialWords, List.mem_cons, Prod.mk.injEq, List.not_mem_nil, or_false] at hrule
  rcases hrule with ⟨rfl, rfl, rfl⟩ | ⟨rfl, rfl, rfl⟩ | ⟨rfl, rfl, rfl⟩ | ⟨rfl, rfl, rfl⟩ |
    ⟨rfl, rfl, rfl⟩ | ⟨rfl, rfl, rfl⟩ | ⟨rfl, rfl, rfl⟩
  · exact hfree (by simp [structuralRules])
  · exact hkey rfl (by simp) rfl
  · exact hkey rfl (by simp) rfl
  · exact hkey rfl (by simp) rfl
  · exact hkey rfl (by simp) rfl
  · exact hfree (by simp [structuralRules])
  · exact hfree (by simp [structuralRules])

/-- A value whose start is long enough makes an assignment. -/
theorem exists_isAssignment_of_start (hs₁ : AllBlank s₁) (hsign : sign = ':' ∨ sign = '=')
    (hs₂ : AllBlank s₂) (hq : IsQuotationMark q) (hlong : least ≤ (unquotedStart v).length) :
    ∃ m rest, word.toList ++ s₁ ++ [sign] ++ s₂ ++ [q] ++ v ++ [q] ++ after = m ++ rest ∧
      IsAssignment word least m := by
  obtain ⟨mark, rest, hmark, hsplit⟩ := exists_mark_behind_unquotedStart hq v after
  refine ⟨_, rest, ?_, s₁, sign, s₂, q, unquotedStart v, mark, rfl, hs₁, hsign, hs₂, hq,
    unquoted_unquotedStart v, hlong, hmark⟩
  simp only [List.append_assoc, List.cons_append, List.nil_append]
  rw [hsplit]

/-- An assignment takes its value to end at the first quotation mark. -/
theorem le_length_unquotedStart (hs₁ : AllBlank s₁) (hsign : sign = ':' ∨ sign = '=')
    (hs₂ : AllBlank s₂) (hq : IsQuotationMark q) {m rest : List Char}
    (h : word.toList ++ s₁ ++ [sign] ++ s₂ ++ [q] ++ v ++ [q] ++ after = m ++ rest)
    (hm : IsAssignment word least m) : least ≤ (unquotedStart v).length := by
  obtain ⟨s₁', sign', s₂', q₁, v', q₂, rfl, hs₁', hsign', hs₂', hq₁, hv', hlong, hq₂⟩ := hm
  simp only [List.append_assoc, List.cons_append, List.nil_append, List.append_cancel_left_eq] at h
  -- part by part, what stands in the text is what the assignment takes it to be
  obtain ⟨rfl, rfl, hbehind⟩ := append_cons_inj_of_run hs₁ hs₁' (isBlank_of_isSeparator hsign)
    (isBlank_of_isSeparator hsign') h
  obtain ⟨rfl, rfl, hvalue⟩ := append_cons_inj_of_run hs₂ hs₂' (isBlank_of_isQuotationMark hq)
    (isBlank_of_isQuotationMark hq₁) hbehind
  have hstart := congrArg unquotedStart hvalue
  rw [unquotedStart_append_cons hq, unquotedStart_append_cons hq₂,
    unquotedStart_of_unquoted hv'] at hstart
  rwa [hstart]

/-- **Which quoted values are caught.**  A word of the catalog is given a quoted value, with any text before and
behind; the words for keys need a place where a word may start.  If the value has at least `least` characters
up to the first quotation mark in it, of either kind, then the rule is satisfied; in particular if it has no
mark at all and is long enough.  If not, then no phrase of the rule begins at the word. -/
theorem catches_quoted_value (hrule : (name, word, least) ∈ credentialWords)
    (hbefore : name = "hardcoded_api_key" → OutsideWord before) (hs₁ : AllBlank s₁)
    (hsign : sign = ':' ∨ sign = '=') (hs₂ : AllBlank s₂) (hq : IsQuotationMark q) :
    let assigned := word.toList ++ s₁ ++ [sign] ++ s₂ ++ [q] ++ v ++ [q] ++ after
    (least ≤ (unquotedStart v).length → name ∈ satisfiedRules (before ++ assigned)) ∧
      (Unquoted v → least ≤ v.length → name ∈ satisfiedRules (before ++ assigned)) ∧
      ((unquotedStart v).length < least → ∀ m, m <+: assigned → ¬ IsAssignment word least m) := by
  intro assigned
  have hcaught : least ≤ (unquotedStart v).length → name ∈ satisfiedRules (before ++ assigned) := by
    intro hlong
    obtain ⟨m, rest, hsplit, hm⟩ :=
      @exists_isAssignment_of_start word least after s₁ s₂ v sign q hs₁ hsign hs₂ hq hlong
    show name ∈ satisfiedRules (before ++ (_ ++ after))
    rw [hsplit, ← List.append_assoc]
    exact mem_satisfiedRules_of_isAssignment hrule hm hbefore
  refine ⟨hcaught, fun hv hlong => hcaught ?_, fun hshort m hprefix hm => ?_⟩
  · rwa [unquotedStart_of_unquoted hv]
  · obtain ⟨rest, hsplit⟩ := hprefix
    exact absurd (le_length_unquotedStart hs₁ hsign hs₂ hq hsplit.symm hm) (by omega)

end Assigned

theorem catches_quoted_value_of_key :
    ("hardcoded_api_key", "api_key", 20) ∈ credentialWords ∧ OutsideWord [] ∧
      "hardcoded_api_key" ∈ satisfiedRules ([] ++ ("api_key".toList ++ " ".toList ++ [':'] ++
        [] ++ ['\x27'] ++ "0123456789abcdefghij\"".toList ++ ['\x27'] ++ ")".toList)) := by
  have hrule : ("hardcoded_api_key", "api_key", 20) ∈ credentialWords := by simp [credentialWords]
  have hword : OutsideWord [] := .inl rfl
  have hblank : AllBlank " ".toList := by
    intro c hc
    rw [List.mem_singleton.mp hc]
    rfl
  exact ⟨hrule, hword, (catches_quoted_value hrule (fun _ => hword) hblank (.inl rfl) (by simp [AllBlank])
    (.inl rfl)).1 (by simp [unquotedStart, Atom.isQuote])⟩

/-- **A quotation mark of the other kind hides a value.**  The value is long enough and does not hold the mark
that encloses it. -/
theorem misses_value_with_other_mark :
    let v := "abcd\x27efgh".toList
    '"' ∉ v ∧ 8 ≤ v.length ∧
      "hardcoded_password" ∉ satisfiedRules
        ("password".toList ++ " ".toList ++ ['='] ++ " ".toList ++ ['"'] ++ v ++ ['"']) := by
  intro v
  refine ⟨by simp [v], by simp [v], fun h => ?_⟩
  have hsearch := (mem_satisfiedRules_iff
    (credentialRule "hardcoded_password" ⟨false, [Atom.assignment "password" 8]⟩)
    (by simp [structuralRules])).mp h
  exact Bool.false_ne_true hsearch

end SourceWatch

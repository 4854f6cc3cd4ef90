import SourceWatch.Text.Search
import Mathlib.Data.List.Infix
import Mathlib.Tactic.Common

/-!
# The parts of a text

Splitting a text at a character and joining parts by the character are inverse to each other, as long as no part
holds the character.

Main statements:

* `splitOn_eq`: splitting is that of lists;
* `splitOn_intercalate`: joined parts are found again;
* `not_mem_of_mem_splitOn`, `length_splitOn`: what the parts of a text are like.
-/

namespace SourceWatch.Text

variable {c : Char} {cs part : List Char}

/-- Splitting a text is splitting it as a list. -/
theorem splitOn_eq (c : Char) (cs : List Char) : splitOn c cs = cs.splitOn c := by
  induction cs with
  | nil => rfl
  | cons d cs ih =>
    rw [splitOn, List.splitOn_cons_eq_if_modifyHead, ih]
    by_cases hd : d = c
    · rw [if_pos hd, if_pos (beq_iff_eq.mpr hd)]
    · rw [if_neg hd, if_neg (mt beq_iff_eq.mp hd)]
      cases hparts : cs.splitOn c with
      | nil => exact absurd hparts (List.splitOn_ne_nil c cs)
      | cons part parts => rfl

theorem splitOn_of_not_mem (h : c ∉ cs) : splitOn c cs = [cs] := by
  rw [splitOn_eq, List.splitOn_eq_singleton h]

/-- A text is split at each separator for itself. -/
theorem splitOn_append (c : Char) (xs ys : List Char) :
    splitOn c (xs ++ c :: ys) = splitOn c xs ++ splitOn c ys := by
  rw [splitOn_eq, splitOn_eq, splitOn_eq, List.splitOn_append_cons_self]

/-- Parts that are joined by a character that none of them holds are found again. -/
theorem splitOn_intercalate {parts : List (List Char)} (hne : parts ≠ []) (h : ∀ part ∈ parts, c ∉ part) :
    splitOn c ([c].intercalate parts) = parts := by
  rw [splitOn_eq, List.splitOn_intercalate c h hne]

/-- No part of a text holds the character at which it was split. -/
theorem not_mem_of_mem_splitOn (h : part ∈ splitOn c cs) : c ∉ part := by
  induction cs generalizing part with
  | nil =>
    rw [List.mem_singleton.mp h]
    exact List.not_mem_nil
  | cons d cs ih =>
    rw [splitOn_eq, List.splitOn_cons_eq_if_modifyHead, ← splitOn_eq] at h
    split at h
    · rcases List.mem_cons.mp h with rfl | hrest
      · exact List.not_mem_nil
      · exact ih hrest
    · next hd =>
      cases hparts : splitOn c cs with
      | nil =>
        rw [hparts] at h
        cases h
      | cons first rest =>
        rw [hparts] at h ih
        rcases List.mem_cons.mp h with rfl | hrest
        · rw [List.mem_cons, not_or]
          exact ⟨fun he => hd (beq_iff_eq.mpr he.symm), ih List.mem_cons_self⟩
        · exact ih (List.mem_cons_of_mem _ hrest)

/-- A text has one part more than there are places at which it is split. -/
theorem length_splitOn (c : Char) (cs : List Char) : (splitOn c cs).length = cs.count c + 1 := by
  induction cs with
  | nil => rfl
  | cons d cs ih =>
    rw [splitOn_eq, List.splitOn_cons_eq_if_modifyHead, ← splitOn_eq, List.count_cons]
    split
    · rw [List.length_cons, ih]
    · rw [List.length_modifyHead, ih]

end SourceWatch.Text

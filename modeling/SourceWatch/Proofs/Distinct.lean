import Mathlib.Data.List.Nodup

/-!
# The distinct members of a list

`List.eraseDups` keeps the first of equal members.

Main statements: `nodup_eraseDups`, `eraseDups_concat`.
-/

namespace SourceWatch

variable {α : Type} [DecidableEq α]

theorem nodup_eraseDups (xs : List α) : xs.eraseDups.Nodup := by
  induction hn : xs.length using Nat.strongRecOn generalizing xs with
  | _ n ih =>
    cases xs with
    | nil => exact List.nodup_nil
    | cons x xs =>
      rw [List.eraseDups_cons, List.nodup_cons, List.mem_eraseDups]
      refine ⟨by simp, ih _ ?_ _ rfl⟩
      rw [← hn, List.length_cons]
      exact Nat.lt_succ_of_le (List.length_filter_le _ _)

/-- One more member counts if it is a new one. -/
theorem eraseDups_concat (xs : List α) (x : α) :
    (xs ++ [x]).eraseDups = if x ∈ xs.eraseDups then xs.eraseDups else xs.eraseDups ++ [x] := by
  rw [List.eraseDups_append, List.removeAll]
  by_cases hx : x ∈ xs
  · simp [hx]
  · simp [hx, List.eraseDups_cons]

/-- The distinct members of a run of equal members, followed by others, are the one that runs and the
distinct ones of the others. -/
theorem eraseDups_run {x : α} {dups rest : List α} (hd : ∀ y ∈ dups, y = x)
    (hr : ∀ y ∈ rest, y ≠ x) : (x :: dups ++ rest).eraseDups = x :: rest.eraseDups := by
  rw [List.cons_append, List.eraseDups_cons, List.filter_append,
    List.filter_eq_nil_iff.mpr (by simpa using hd), List.nil_append,
    List.filter_eq_self.mpr (by simpa using hr)]

end SourceWatch

import SourceWatch.Association
import Mathlib.Data.List.Nodup
import Mathlib.Tactic.Common

/-!
# Pairs with distinct keys

Main statements:

* `Association.ofPairs_of_nodup`: pairs with distinct keys are written as they stand;
* `Association.ofPairs_map`: writing pairs does not look at their values;
* `Association.get?_ofPairs_eq_find?`: the last pair with a key has its value.
-/

namespace SourceWatch.Association

variable {κ ν μ : Type} [DecidableEq κ]

/-- A key that is not there yet is written behind the others. -/
theorem put_of_not_mem {key : κ} {value : ν} {list : List (κ × ν)} (h : key ∉ list.map (·.1)) :
    put key value list = list ++ [(key, value)] := by
  induction list with
  | nil => rfl
  | cons pair rest ih =>
    obtain ⟨k, v⟩ := pair
    rw [List.map_cons, List.mem_cons, not_or] at h
    rw [put, if_neg (Ne.symm h.1), ih h.2]
    rfl

/-- **Pairs with distinct keys are written as they stand.** -/
theorem ofPairs_of_nodup {pairs : List (κ × ν)} (h : (pairs.map (·.1)).Nodup) : ofPairs pairs = pairs := by
  have hfold : ∀ written : List (κ × ν), ((written ++ pairs).map (·.1)).Nodup →
      pairs.foldl (fun list pair => put pair.1 pair.2 list) written = written ++ pairs := by
    clear h
    induction pairs with
    | nil => exact fun written _ => (List.append_nil written).symm
    | cons pair rest ih =>
      intro written hn
      have hnew : pair.1 ∉ written.map (·.1) := by
        rw [List.map_append, List.map_cons] at hn
        have := (List.nodup_append.mp hn).2.2
        intro hm
        exact this _ hm _ List.mem_cons_self rfl
      rw [List.append_cons] at hn ⊢
      rw [List.foldl_cons, put_of_not_mem hnew]
      exact ih _ hn
  exact hfold [] h

theorem put_map (f : ν → μ) (key : κ) (value : ν) (list : List (κ × ν)) :
    put key (f value) (list.map fun pair => (pair.1, f pair.2)) =
      (put key value list).map fun pair => (pair.1, f pair.2) := by
  induction list with
  | nil => rfl
  | cons pair rest ih =>
    rw [List.map_cons, put, put]
    split
    · rfl
    · rw [List.map_cons, ih]

/-- Writing pairs does not look at their values. -/
theorem ofPairs_map (f : ν → μ) (pairs : List (κ × ν)) :
    ofPairs (pairs.map fun pair => (pair.1, f pair.2)) =
      (ofPairs pairs).map fun pair => (pair.1, f pair.2) := by
  have hfold : ∀ written : List (κ × ν),
      (pairs.map fun pair => (pair.1, f pair.2)).foldl (fun list pair => put pair.1 pair.2 list)
          (written.map fun pair => (pair.1, f pair.2)) =
        (pairs.foldl (fun list pair => put pair.1 pair.2 list) written).map fun pair => (pair.1, f pair.2) := by
    induction pairs with
    | nil => exact fun written => rfl
    | cons pair rest ih =>
      intro written
      rw [List.map_cons, List.foldl_cons, List.foldl_cons, ← ih, ← put_map]
  exact hfold []

/-- The first pair with a key has its value. -/
theorem get?_eq_find? (key : κ) (list : List (κ × ν)) :
    get? key list = (list.find? (·.1 = key)).map (·.2) := by
  induction list with
  | nil => rfl
  | cons pair rest ih =>
    obtain ⟨k, v⟩ := pair
    rw [get?, List.find?_cons, ih]
    by_cases hk : k = key <;> simp [hk]

/-- After a sequence of writings **the last pair with a key** has its value. -/
theorem get?_ofPairs_eq_find? (key : κ) (pairs : List (κ × ν)) :
    get? key (ofPairs pairs) = (pairs.reverse.find? (·.1 = key)).map (·.2) := by
  rw [get?_ofPairs, get?_eq_find?]

end SourceWatch.Association

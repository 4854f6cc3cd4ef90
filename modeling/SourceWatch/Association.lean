/-!
# Association lists

Settings, headers and documents are lists of named values in the order of first appearance. Writing to
a name that is present replaces its value in place; the order does not change.

Main definitions:

* `Association.get?`: the value at a key.
* `Association.put`: the list after writing a value to a key.
* `Association.ofPairs`: the list after a sequence of writings.
-/

namespace SourceWatch.Association

variable {κ ν : Type} [DecidableEq κ]

/-- The value at a key. -/
def get? (key : κ) : List (κ × ν) → Option ν
  | [] => none
  | (k, v) :: rest => if k = key then some v else get? key rest

/-- The list after `value` is written to `key`. -/
def put (key : κ) (value : ν) : List (κ × ν) → List (κ × ν)
  | [] => [(key, value)]
  | (k, v) :: rest => if k = key then (k, value) :: rest else (k, v) :: put key value rest

/-- The list after the pairs are written one after the other. -/
def ofPairs (pairs : List (κ × ν)) : List (κ × ν) :=
  pairs.foldl (fun list pair => put pair.1 pair.2 list) []

theorem get?_put (key other : κ) (value : ν) (list : List (κ × ν)) :
    get? other (put key value list) = if key = other then some value else get? other list := by
  induction list with
  | nil => simp [put, get?]
  | cons pair rest ih =>
    obtain ⟨k, v⟩ := pair
    by_cases hk : k = key
    · subst hk
      by_cases ho : k = other <;> simp [put, get?, ho]
    · by_cases ho : key = other
      · subst ho
        simp [put, get?, hk, ih]
      · simp only [put, if_neg hk, get?, ih, if_neg ho]

theorem get?_append (key : κ) (xs ys : List (κ × ν)) :
    get? key (xs ++ ys) = (get? key xs).or (get? key ys) := by
  induction xs with
  | nil => simp [get?]
  | cons x xs ih =>
    obtain ⟨k, v⟩ := x
    by_cases hk : k = key <;> simp [get?, hk, ih]

/-- After a sequence of writings a key has the value that was written to it last. -/
theorem get?_ofPairs (key : κ) (pairs : List (κ × ν)) :
    get? key (ofPairs pairs) = get? key pairs.reverse := by
  have h : ∀ list : List (κ × ν),
      get? key (pairs.foldl (fun list pair => put pair.1 pair.2 list) list) =
        (get? key pairs.reverse).or (get? key list) := by
    induction pairs with
    | nil => simp [get?]
    | cons pair rest ih =>
      intro list
      rw [List.foldl_cons, ih, List.reverse_cons, get?_append, get?_put]
      cases get? key rest.reverse with
      | some _ => simp
      | none => by_cases hk : pair.1 = key <;> simp [get?, hk]
  simpa [ofPairs, get?] using h []

end SourceWatch.Association

/-!
# Search trees over ranges of code points

A property of characters is tabulated as a sorted list of disjoint ranges. The list stays the
reference; `RangeTree.ofList` arranges it as a balanced tree so that a look-up takes a logarithmic
number of comparisons.

Main definitions:

* `RangeTree`: a binary tree of ranges `first … last`, each with a value.
* `RangeTree.find?`: the value of the range that holds a number.
* `RangeTree.ofList`, `RangeTree.ofRanges`: the tree of a sorted table.

Main statement: `RangeTree.exists_mem_of_find?_ofList`, a look-up only finds what the table lists.
-/

namespace SourceWatch.Text

/-- A binary search tree whose nodes carry the range `first … last` and a value for it. -/
inductive RangeTree (α : Type) where
  | empty
  | node (below : RangeTree α) (first last : Nat) (value : α) (above : RangeTree α)

namespace RangeTree

variable {α : Type}

/-- The value of the range that holds `n`. -/
def find? : RangeTree α → Nat → Option α
  | empty, _ => none
  | node below first last value above, n =>
    if n < first then below.find? n
    else if n ≤ last then some value
    else above.find? n

/-- Whether some range of the tree holds `n`. -/
def contains (t : RangeTree α) (n : Nat) : Bool :=
  (t.find? n).isSome

/-- A tree of at most `depth` levels made of the first entries of a sorted table, and the entries
that did not fit. -/
def build : (depth : Nat) → List (Nat × Nat × α) → RangeTree α × List (Nat × Nat × α)
  | 0, table => (empty, table)
  | depth + 1, table =>
    match build depth table with
    | (below, []) => (below, [])
    | (below, (first, last, value) :: rest) =>
      match build depth rest with
      | (above, rest) => (node below first last value above, rest)

/-- The balanced tree of a sorted table of ranges. -/
def ofList (table : List (Nat × Nat × α)) : RangeTree α :=
  (build (table.length.log2 + 1) table).1

/-- The balanced tree of a sorted list of ranges that carry no value. -/
def ofRanges (ranges : List (Nat × Nat)) : RangeTree Unit :=
  ofList (ranges.map fun r => (r.1, r.2, ()))

/-! ### A look-up only finds what the table lists -/

/-- The entries of a tree, in order. -/
def toList : RangeTree α → List (Nat × Nat × α)
  | empty => []
  | node below first last value above => below.toList ++ (first, last, value) :: above.toList

theorem exists_mem_of_find? {t : RangeTree α} {n : Nat} {a : α} (h : t.find? n = some a) :
    ∃ first last, (first, last, a) ∈ t.toList ∧ first ≤ n ∧ n ≤ last := by
  induction t with
  | empty => simp [find?] at h
  | node below first last value above ihb iha =>
    rw [find?] at h
    split at h
    · obtain ⟨f, l, hm, hf, hl⟩ := ihb h
      exact ⟨f, l, by simp [toList, hm], hf, hl⟩
    · split at h
      · cases h
        exact ⟨first, last, by simp [toList], by omega, by omega⟩
      · obtain ⟨f, l, hm, hf, hl⟩ := iha h
        exact ⟨f, l, by simp [toList, hm], hf, hl⟩

theorem build_append (depth : Nat) (table : List (Nat × Nat × α)) :
    (build depth table).1.toList ++ (build depth table).2 = table := by
  induction depth generalizing table with
  | zero => simp [build, toList]
  | succ depth ih =>
    have hb := ih table
    rw [build]
    cases hfirst : build depth table with
    | mk below rest =>
      rw [hfirst] at hb
      cases rest with
      | nil => exact hb
      | cons entry rest =>
        have ha := ih rest
        simp only [toList, List.append_assoc, List.cons_append]
        rw [ha]
        exact hb

theorem exists_mem_of_find?_ofList {table : List (Nat × Nat × α)} {n : Nat} {a : α}
    (h : (ofList table).find? n = some a) :
    ∃ first last, (first, last, a) ∈ table ∧ first ≤ n ∧ n ≤ last := by
  obtain ⟨first, last, hm, hf, hl⟩ := exists_mem_of_find? h
  refine ⟨first, last, ?_, hf, hl⟩
  have := build_append (table.length.log2 + 1) table
  rw [← this]
  exact List.mem_append_left _ hm

end RangeTree

end SourceWatch.Text

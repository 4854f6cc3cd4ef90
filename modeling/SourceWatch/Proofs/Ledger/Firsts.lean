import SourceWatch.Proofs.Ledger.Recordings
import SourceWatch.Proofs.Monitor.Cycle

/-!
# Only the first of its key

Of findings that share a key, a round takes the first or none.  The window may be as small as it can be:
once the first of a row was taken or passed over, it or what it repeats hides the others of the row.

Main definition: `IsFirst`, the first of some findings with its key.

Main statements:

* `Ledger.acceptAll_eq_recordAll`: a round records what it takes;
* `Ledger.acceptAll_takes_firsts`: of findings that come in rows, a round takes firsts, each key once;
* `Ledger.exists_part_of_mem_acceptAll`: of parts in which findings come in rows, it takes firsts of a part.
-/

namespace SourceWatch

/-- The first of some findings with its key. -/
def IsFirst (fs : List Finding) (f : Finding) : Prop :=
  fs.find? (·.key = f.key) = some f

namespace IsFirst

variable {fs gs : List Finding} {f : Finding}

theorem mem (h : IsFirst fs f) : f ∈ fs :=
  List.mem_of_find?_eq_some h

theorem head (f : Finding) (fs : List Finding) : IsFirst (f :: fs) f := by
  simp [IsFirst]

theorem append_right (h : IsFirst fs f) (gs : List Finding) : IsFirst (fs ++ gs) f := by
  rw [IsFirst, List.find?_append, h]
  rfl

/-- Findings with other keys may come before. -/
theorem append_left (h : IsFirst gs f) (hfs : ∀ g ∈ fs, g.key ≠ f.key) : IsFirst (fs ++ gs) f := by
  have hnone : fs.find? (·.key = f.key) = none := by simpa using hfs
  rw [IsFirst, List.find?_append, hnone]
  exact h

end IsFirst

/-- Of findings with one key, there is at most one if their keys are distinct. -/
theorem length_le_one_of_nodup_keys {fs : List Finding} {k : RepeatKey}
    (hnodup : (fs.map Finding.key).Nodup) (h : ∀ f ∈ fs, f.key = k) : fs.length ≤ 1 := by
  have hkeys : fs.map Finding.key = List.replicate fs.length k :=
    List.eq_replicate_iff.mpr ⟨List.length_map _, List.forall_mem_map.mpr h⟩
  rwa [hkeys, List.nodup_replicate] at hnodup

namespace Ledger

variable {l : Ledger} {f : Finding} {fs : List Finding}

/-- A round records what it takes. -/
theorem acceptAll_eq_recordAll (l : Ledger) (fs : List Finding) :
    (l.acceptAll fs).1 = l.recordAll (l.acceptAll fs).2 := by
  induction fs generalizing l with
  | nil => rfl
  | cons f fs ih =>
    by_cases h : l.isRepeat f = true
    · rw [acceptAll_cons_of_isRepeat h]
      exact ih l
    · rw [acceptAll_cons_of_not_isRepeat h]
      exact ih (l.record f)

/-- Whether a finding is a repeat is a matter of its key. -/
theorem isRepeat_congr {g : Finding} (h : g.key = f.key) : l.isRepeat g = l.isRepeat f := by
  rw [Bool.eq_iff_iff, isRepeat_iff, isRepeat_iff, h]

/-- What a round takes first is what the ledger does not know first. -/
theorem firstNew?_eq_head? (l : Ledger) (fs : List Finding) :
    l.firstNew? fs = (l.acceptAll fs).2.head? := by
  induction fs with
  | nil => rfl
  | cons f fs ih =>
    by_cases h : l.isRepeat f = true
    · rw [firstNew?_cons_of_isRepeat h, acceptAll_cons_of_isRepeat h, ih]
    · rw [firstNew?_cons_of_not_isRepeat h, acceptAll_cons_of_not_isRepeat h, List.head?_cons]

/-- **A round takes firsts.**  Of findings that come in rows, it takes no two with one key, and each that it takes
is the first with its key. -/
theorem acceptAll_takes_firsts (hfs : Clustered fs) (hw : 1 ≤ l.window) :
    ((l.acceptAll fs).2.map Finding.key).Nodup ∧ ∀ f ∈ (l.acceptAll fs).2, IsFirst fs f := by
  induction hfs generalizing l with
  | nil => exact ⟨List.nodup_nil, fun f hf => absurd hf List.not_mem_nil⟩
  | run f dups rest equal others _ ih =>
    have hrow : ∀ g ∈ f :: dups, g.key = f.key := List.forall_mem_cons.mpr ⟨rfl, equal⟩
    -- what is taken later is a first, because no finding of the row has its key
    have hlater : ∀ g, IsFirst rest g → IsFirst (f :: dups ++ rest) g := fun g hg =>
      hg.append_left fun d hd he => others g hg.mem (he.symm.trans (hrow d hd))
    by_cases h : l.isRepeat f = true
    · rw [acceptAll_append_of_isRepeat fun g hg => (isRepeat_congr (hrow g hg)).trans h]
      obtain ⟨hnodup, hfirst⟩ := ih hw
      exact ⟨hnodup, fun g hg => hlater g (hfirst g hg)⟩
    · rw [acceptAll_run hw equal h]
      obtain ⟨hnodup, hfirst⟩ := @ih (l.record f) hw
      refine ⟨?_, List.forall_mem_cons.mpr ⟨IsFirst.head f _, fun g hg => hlater g (hfirst g hg)⟩⟩
      rw [List.map_cons, List.nodup_cons]
      refine ⟨fun hmem => ?_, hnodup⟩
      obtain ⟨g, hg, he⟩ := List.mem_map.mp hmem
      exact others g (hfirst g hg).mem he

/-- Of parts in which findings come in rows, a round takes firsts of a part, even if the parts share keys. -/
theorem exists_part_of_mem_acceptAll {ι : Type} {xs : List ι} {part : ι → List Finding}
    (hc : ∀ x ∈ xs, Clustered (part x)) (hw : 1 ≤ l.window)
    (hf : f ∈ (l.acceptAll (xs.flatMap part)).2) : ∃ x ∈ xs, IsFirst (part x) f := by
  induction xs generalizing l with
  | nil => cases hf
  | cons x xs ih =>
    rw [List.flatMap_cons, acceptAll_append] at hf
    rcases List.mem_append.mp hf with hf | hf
    · exact ⟨x, List.mem_cons_self, (acceptAll_takes_firsts (hc x List.mem_cons_self) hw).2 f hf⟩
    · obtain ⟨y, hy, hfirst⟩ :=
        ih (fun y hy => hc y (List.mem_cons_of_mem x hy)) ((window_acceptAll l _).symm ▸ hw) hf
      exact ⟨y, List.mem_cons_of_mem x hy, hfirst⟩

end Ledger

end SourceWatch

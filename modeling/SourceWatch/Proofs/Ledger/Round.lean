import SourceWatch.Proofs.Distinct
import SourceWatch.Proofs.Ledger.Log

/-!
# A round of findings

A scan offers the ledger one finding after the other.  Findings with equal keys come in a row, so
within one round a key is taken at most once.  Whether it is taken depends on how far back the log
knows it.

Main definitions:

* `Ledger.acceptAll`: offering findings one after the other;
* `Clustered`: lists in which findings with equal keys come in a row;
* `Ledger.Unseen`: each of a sequence of keys comes when the log has lost sight of it.

Main statements:

* `Ledger.acceptAll_of_unseen`: keys out of sight are taken once each;
* `Ledger.unseen_again`: a round that is too long for window and limit is out of sight when it comes
  again.
-/

namespace SourceWatch

/-- Findings with equal keys come in a row. -/
inductive Clustered : List Finding → Prop
  | nil : Clustered []
  | run (f : Finding) (dups rest : List Finding) (equal : ∀ g ∈ dups, g.key = f.key)
      (others : ∀ g ∈ rest, g.key ≠ f.key) (clustered : Clustered rest) :
      Clustered (f :: dups ++ rest)

namespace Clustered

/-- A list of findings with one key. -/
theorem of_equal {fs : List Finding} {k : RepeatKey} (h : ∀ f ∈ fs, f.key = k) : Clustered fs := by
  cases fs with
  | nil => exact nil
  | cons f fs =>
    rw [← List.append_nil (f :: fs)]
    refine run f fs [] (fun g hg => ?_) (by simp) nil
    rw [h g (List.mem_cons_of_mem f hg), h f List.mem_cons_self]

/-- A list of findings with distinct keys. -/
theorem of_nodup {fs : List Finding} (h : (fs.map Finding.key).Nodup) : Clustered fs := by
  induction fs with
  | nil => exact nil
  | cons f fs ih =>
    rw [List.map_cons, List.nodup_cons] at h
    refine run f [] fs (by simp) (fun g hg he => h.1 ?_) (ih h.2)
    exact he ▸ List.mem_map_of_mem hg

/-- Lists that share no key, one after the other. -/
theorem append {fs gs : List Finding} (hf : Clustered fs) (hg : Clustered gs)
    (hd : ∀ f ∈ fs, ∀ g ∈ gs, g.key ≠ f.key) : Clustered (fs ++ gs) := by
  induction hf with
  | nil => exact hg
  | run f dups rest equal others _ ih =>
    rw [List.append_assoc]
    refine run f dups (rest ++ gs) equal (fun g hm => ?_) (ih fun g hm => hd g (by simp [hm]))
    rcases List.mem_append.mp hm with hm | hm
    · exact others g hm
    · exact hd f (by simp) g hm

/-- Lists of which no two share a key, one after the other. -/
theorem flatMap {ι : Type} {xs : List ι} {part : ι → List Finding}
    (hc : ∀ x ∈ xs, Clustered (part x))
    (hd : xs.Pairwise fun x y => ∀ f ∈ part x, ∀ g ∈ part y, g.key ≠ f.key) :
    Clustered (xs.flatMap part) := by
  induction xs with
  | nil => exact nil
  | cons x xs ih =>
    rw [List.pairwise_cons] at hd
    rw [List.flatMap_cons]
    refine (hc x List.mem_cons_self).append (ih (fun y hy => hc y (by simp [hy])) hd.2) ?_
    intro f hf g hg
    obtain ⟨y, hy, hgy⟩ := List.mem_flatMap.mp hg
    exact hd.1 y hy f hf g hgy

end Clustered

namespace Ledger

/-- The ledger after findings are offered to it one after the other, and those that it took. -/
def acceptAll (l : Ledger) : List Finding → Ledger × List Finding
  | [] => (l, [])
  | f :: fs =>
    let rest := (l.accept f).1.acceptAll fs
    (rest.1, if (l.accept f).2 then f :: rest.2 else rest.2)

variable {l : Ledger}

theorem acceptAll_cons_of_isRepeat {f : Finding} (h : l.isRepeat f = true) (fs : List Finding) :
    l.acceptAll (f :: fs) = l.acceptAll fs := by
  simp [acceptAll, accept_of_isRepeat h]

theorem acceptAll_cons_of_not_isRepeat {f : Finding} (h : ¬ l.isRepeat f = true)
    (fs : List Finding) :
    l.acceptAll (f :: fs) =
      (((l.record f).acceptAll fs).1, f :: ((l.record f).acceptAll fs).2) := by
  simp [acceptAll, accept_of_not_isRepeat h]

/-- Repeats leave no trace. -/
theorem acceptAll_append_of_isRepeat {fs : List Finding} (h : ∀ f ∈ fs, l.isRepeat f = true)
    (gs : List Finding) : l.acceptAll (fs ++ gs) = l.acceptAll gs := by
  induction fs with
  | nil => rfl
  | cons f fs ih =>
    rw [List.cons_append, acceptAll_cons_of_isRepeat (h f List.mem_cons_self)]
    exact ih fun g hg => h g (List.mem_cons_of_mem f hg)

theorem acceptAll_of_isRepeat {fs : List Finding} (h : ∀ f ∈ fs, l.isRepeat f = true) :
    l.acceptAll fs = (l, []) := by
  have := acceptAll_append_of_isRepeat h []
  rwa [List.append_nil] at this

/-- Of a run of findings with one key, at most the first is taken. -/
theorem acceptAll_run (hw : 1 ≤ l.window) {f : Finding} {dups : List Finding}
    (hd : ∀ g ∈ dups, g.key = f.key) (h : ¬ l.isRepeat f = true) (rest : List Finding) :
    l.acceptAll (f :: dups ++ rest) =
      (((l.record f).acceptAll rest).1, f :: ((l.record f).acceptAll rest).2) := by
  rw [List.cons_append, acceptAll_cons_of_not_isRepeat h,
    acceptAll_append_of_isRepeat fun g hg => isRepeat_record hw (hd g hg)]

/-! ### Out of sight -/

/-- Each of a sequence of keys comes when it is not among the last `reach` keys of the log; it is then
written to the log. -/
def Unseen (reach : ℕ) : (log keys : List RepeatKey) → Prop
  | _, [] => True
  | log, k :: keys => k ∉ lastOf reach log ∧ Unseen reach (log ++ [k]) keys

/-- Keys that the log does not hold are out of sight. -/
theorem unseen_of_disjoint (reach : ℕ) {log keys : List RepeatKey} (hn : keys.Nodup)
    (hd : ∀ k ∈ keys, k ∉ log) : Unseen reach log keys := by
  induction keys generalizing log with
  | nil => trivial
  | cons k keys ih =>
    rw [List.nodup_cons] at hn
    refine ⟨fun hk => hd k List.mem_cons_self ((lastOf_suffix _ _).subset hk), ih hn.2 ?_⟩
    intro j hj hmem
    rcases List.mem_append.mp hmem with hmem | hmem
    · exact hd j (List.mem_cons_of_mem k hj) hmem
    · exact hn.1 (List.mem_singleton.mp hmem ▸ hj)

/-- The part `done` of a round has come again already, the part `keys` is still to come.  What lies
between two visits of a key is always the whole rest of the round and `others`. -/
theorem unseen_rotation {reach : ℕ} {others : List RepeatKey} (before done keys : List RepeatKey)
    (hn : (done ++ keys).Nodup) (ho : ∀ k ∈ keys, k ∉ others)
    (hr : reach < (done ++ keys).length + others.length) :
    Unseen reach (before ++ (done ++ keys) ++ others ++ done) keys := by
  induction keys generalizing done with
  | nil => trivial
  | cons k keys ih =>
    have hsplit : done ++ k :: keys = done ++ [k] ++ keys := by simp
    constructor
    · rw [show before ++ (done ++ k :: keys) ++ others ++ done =
        before ++ done ++ [k] ++ (keys ++ others ++ done) by simp]
      rw [lastOf_append_of_le (by simp at hr ⊢; omega)]
      intro hk
      have hmem := (lastOf_suffix _ _).subset hk
      rw [List.nodup_append, List.nodup_cons] at hn
      rw [List.mem_append, List.mem_append] at hmem
      rcases hmem with (hmem | hmem) | hmem
      · exact hn.2.1.1 hmem
      · exact ho k List.mem_cons_self hmem
      · exact hn.2.2 k hmem k List.mem_cons_self rfl
    · rw [List.append_assoc, hsplit]
      apply ih (done ++ [k])
      · rwa [← hsplit]
      · exact fun j hj => ho j (List.mem_cons_of_mem k hj)
      · rwa [← hsplit]

/-- **A round that is too long is out of sight when it comes again.** -/
theorem unseen_again {reach : ℕ} {keys others : List RepeatKey} (before : List RepeatKey)
    (hn : keys.Nodup) (ho : ∀ k ∈ keys, k ∉ others) (hr : reach < keys.length + others.length) :
    Unseen reach (before ++ keys ++ others) keys := by
  have h := unseen_rotation before [] keys (by simpa using hn) ho (by simpa using hr)
  simpa using h

/-- **Keys out of sight are taken once each.**  The findings that are taken have the distinct keys of
the round, in their order, and the log grows by just these findings. -/
theorem acceptAll_of_unseen {fs : List Finding} (hfs : Clustered fs) (hl : 1 ≤ l.limit)
    (hw : 1 ≤ l.window) {log : List Finding} (ht : l.Tracks log)
    (hu : Unseen (min l.window l.limit) (log.map Finding.key) (fs.map Finding.key).eraseDups) :
    (l.acceptAll fs).2.map Finding.key = (fs.map Finding.key).eraseDups ∧
      (l.acceptAll fs).1.Tracks (log ++ (l.acceptAll fs).2) := by
  induction hfs generalizing l log with
  | nil => simpa [acceptAll] using ht
  | run f dups rest equal others _ ih =>
    have hkeys : ((f :: dups ++ rest).map Finding.key).eraseDups =
        f.key :: (rest.map Finding.key).eraseDups := by
      rw [List.map_append, List.map_cons]
      exact eraseDups_run (by simpa using equal) (by simpa using others)
    rw [hkeys] at hu ⊢
    have hnew := ht.unseen hu.1
    have hu' : Unseen (min l.window l.limit) ((log ++ [f]).map Finding.key)
        (rest.map Finding.key).eraseDups := by
      rw [List.map_append]
      exact hu.2
    have hnext := ih (l := l.record f) hl hw (ht.record hl f) hu'
    rw [acceptAll_run hw equal hnew]
    refine ⟨by rw [List.map_cons, hnext.1], ?_⟩
    have := hnext.2
    rwa [List.append_assoc] at this

@[simp] theorem limit_acceptAll (l : Ledger) (fs : List Finding) :
    (l.acceptAll fs).1.limit = l.limit := by
  induction fs generalizing l with
  | nil => rfl
  | cons f fs ih =>
    by_cases h : l.isRepeat f = true
    · rw [acceptAll_cons_of_isRepeat h, ih]
    · rw [acceptAll_cons_of_not_isRepeat h, ih, limit_record]

@[simp] theorem window_acceptAll (l : Ledger) (fs : List Finding) :
    (l.acceptAll fs).1.window = l.window := by
  induction fs generalizing l with
  | nil => rfl
  | cons f fs ih =>
    by_cases h : l.isRepeat f = true
    · rw [acceptAll_cons_of_isRepeat h, ih]
    · rw [acceptAll_cons_of_not_isRepeat h, ih, window_record]

end Ledger

end SourceWatch

import SourceWatch.Ledger
import Mathlib.Data.List.Infix
import Mathlib.Tactic.Common

/-!
# The ledger as the end of a log

Whatever is recorded goes to an imagined log without a limit.  The ledger holds the end of that log: a
cut removes the oldest entries only, and it never leaves fewer than half the limit.

Main definition: `Ledger.Tracks`, how much of a log a ledger still holds.

Main statements:

* `Ledger.Tracks.record`: a recording keeps ledger and log in step;
* `Ledger.Tracks.lastOf_entries`: a window of at most half the limit is the same in both;
* `Ledger.Tracks.unseen`: what neither the window nor the limit reaches is no repeat.
-/

namespace SourceWatch.Ledger

variable {α : Type}

/-! ### The last members of a list -/

theorem lastOf_suffix (n : ℕ) (xs : List α) : lastOf n xs <:+ xs :=
  List.drop_suffix _ _

theorem length_lastOf (n : ℕ) (xs : List α) : (lastOf n xs).length = min n xs.length := by
  rw [lastOf, List.length_drop]
  omega

theorem lastOf_of_length_le {n : ℕ} {xs : List α} (h : xs.length ≤ n) : lastOf n xs = xs := by
  rw [lastOf, Nat.sub_eq_zero_of_le h, List.drop_zero]

/-- What lies further back than `n` has no part in the last `n` members. -/
theorem lastOf_append_of_le {n : ℕ} {xs ys : List α} (h : n ≤ ys.length) :
    lastOf n (xs ++ ys) = lastOf n ys := by
  rw [lastOf, lastOf, List.length_append, List.drop_append,
    List.drop_eq_nil_of_le (by omega : xs.length ≤ xs.length + ys.length - n), List.nil_append]
  congr 1
  omega

/-- A suffix that is long enough has the same last members. -/
theorem lastOf_eq_of_suffix {n : ℕ} {ys xs : List α} (hs : ys <:+ xs)
    (hn : min n xs.length ≤ ys.length) : lastOf n ys = lastOf n xs := by
  obtain ⟨zs, rfl⟩ := hs
  rw [List.length_append] at hn
  rcases Nat.lt_or_ge ys.length n with hlt | hge
  · have hz : zs = [] := List.eq_nil_of_length_eq_zero (by omega)
    rw [hz, List.nil_append]
  · exact (lastOf_append_of_le hge).symm

/-- Of two ends of a list the shorter one lies within the longer one. -/
theorem suffix_lastOf {n : ℕ} {ys xs : List α} (hs : ys <:+ xs) (hn : ys.length ≤ n) :
    ys <:+ lastOf n xs := by
  apply List.suffix_of_suffix_length_le hs (lastOf_suffix n xs)
  rw [length_lastOf]
  have := hs.length_le
  omega

theorem lastOf_map {β : Type} (g : α → β) (n : ℕ) (xs : List α) :
    lastOf n (xs.map g) = (lastOf n xs).map g := by
  rw [lastOf, lastOf, List.length_map, List.map_drop]

/-! ### The operations -/

@[simp] theorem limit_record (l : Ledger) (f : Finding) : (l.record f).limit = l.limit := rfl

@[simp] theorem window_record (l : Ledger) (f : Finding) : (l.record f).window = l.window := rfl

@[simp] theorem kept_record (l : Ledger) (f : Finding) : (l.record f).kept = l.kept := rfl

/-- A finding is a repeat if the window shows its key. -/
theorem isRepeat_iff (l : Ledger) (f : Finding) :
    l.isRepeat f = true ↔ f.key ∈ (lastOf l.window l.entries).map Finding.key := by
  simp only [isRepeat, List.any_eq_true, decide_eq_true_eq, List.mem_map]

theorem accept_of_isRepeat {l : Ledger} {f : Finding} (h : l.isRepeat f = true) :
    l.accept f = (l, false) := by
  rw [accept, if_pos h]

theorem accept_of_not_isRepeat {l : Ledger} {f : Finding} (h : ¬ l.isRepeat f = true) :
    l.accept f = (l.record f, true) := by
  rw [accept, if_neg h]

theorem accept_snd (l : Ledger) (f : Finding) : (l.accept f).2 = !l.isRepeat f := by
  unfold accept
  split <;> simp_all

/-- A ledger can be made if limit and window are at least one. -/
theorem create_of_pos {limit window : Int} (hl : 1 ≤ limit) (hw : 1 ≤ window) :
    create limit window = .ok ⟨limit.toNat, window.toNat, []⟩ := by
  rw [create, if_neg (by omega), if_neg (by omega)]

/-! ### In step with a log -/

/-- **In step with a log.**  The entries of a ledger are the end of `log`: all of it while it does not
exceed the limit, and at least the part that a cut leaves. -/
structure Tracks (l : Ledger) (log : List Finding) : Prop where
  suffix : l.entries <:+ log
  kept_le : min l.kept log.length ≤ l.entries.length
  le_limit : l.entries.length ≤ l.limit
  whole : log.length ≤ l.limit → l.entries = log

theorem tracks_nil (limit window : ℕ) : Tracks ⟨limit, window, []⟩ [] :=
  ⟨List.suffix_refl _, by simp, Nat.zero_le _, fun _ => rfl⟩

theorem kept_le_limit {l : Ledger} (hl : 1 ≤ l.limit) : l.kept ≤ l.limit := by
  unfold kept
  omega

/-- A recording keeps ledger and log in step. -/
theorem Tracks.record {l : Ledger} {log : List Finding} (h : l.Tracks log) (hl : 1 ≤ l.limit)
    (f : Finding) : (l.record f).Tracks (log ++ [f]) := by
  have hs : l.entries ++ [f] <:+ log ++ [f] :=
    (List.suffix_append_inj_of_length_eq rfl).mpr ⟨h.suffix, rfl⟩
  have hlen : (l.entries ++ [f]).length = l.entries.length + 1 := List.length_append
  have hlog : (log ++ [f]).length = log.length + 1 := List.length_append
  have hkept := h.kept_le
  by_cases hfull : l.limit < l.entries.length + 1
  · -- the ledger overflows, so the log is longer than the limit as well
    have he : (l.record f).entries = lastOf l.kept (l.entries ++ [f]) := by
      rw [Ledger.record, hlen]
      exact if_pos hfull
    have hcut : (l.record f).entries.length = min l.kept (l.entries.length + 1) := by
      rw [he, length_lastOf, hlen]
    have hk := kept_le_limit hl
    have hle := h.suffix.length_le
    exact
      { suffix := he ▸ (lastOf_suffix _ _).trans hs
        kept_le := by rw [hcut, kept_record]; omega
        le_limit := by rw [hcut, limit_record]; omega
        whole := by rw [hlog, limit_record]; omega }
  · have he : (l.record f).entries = l.entries ++ [f] := by
      rw [Ledger.record, hlen]
      exact if_neg hfull
    exact
      { suffix := he ▸ hs
        kept_le := by rw [he, hlen, hlog, kept_record]; omega
        le_limit := by rw [he, hlen, limit_record]; omega
        whole := by
          intro hw
          rw [hlog, limit_record] at hw
          rw [he, h.whole (by omega)] }

/-- A window of at most half the limit shows the same in the ledger and in the log. -/
theorem Tracks.lastOf_entries {l : Ledger} {log : List Finding} (h : l.Tracks log)
    (hw : l.window ≤ l.kept) : lastOf l.window l.entries = lastOf l.window log := by
  have hkept := h.kept_le
  exact lastOf_eq_of_suffix h.suffix (by omega)

/-- A key that is not among the last ones of the log, as far as window and limit reach, is new to the
ledger. -/
theorem Tracks.unseen {l : Ledger} {log : List Finding} (h : l.Tracks log) {f : Finding}
    (hf : f.key ∉ lastOf (min l.window l.limit) (log.map Finding.key)) :
    ¬ l.isRepeat f = true := by
  rw [isRepeat_iff]
  intro hm
  apply hf
  rw [lastOf_map]
  have hlen : (lastOf l.window l.entries).length ≤ min l.window l.limit := by
    have := h.le_limit
    rw [length_lastOf]
    omega
  have hsuf := suffix_lastOf ((lastOf_suffix l.window l.entries).trans h.suffix) hlen
  exact (hsuf.map _).subset hm

/-- While the log exceeds neither window nor limit, every key of it is known. -/
theorem Tracks.isRepeat_of_mem {l : Ledger} {log : List Finding} (h : l.Tracks log)
    (hlen : log.length ≤ min l.window l.limit) {f : Finding} (hf : f.key ∈ log.map Finding.key) :
    l.isRepeat f = true := by
  rw [isRepeat_iff, h.whole (by omega), lastOf_of_length_le (by omega)]
  exact hf

/-- A recording adds a finding, and a cut takes away from the front. -/
theorem entries_record_suffix (l : Ledger) (f : Finding) :
    (l.record f).entries <:+ l.entries ++ [f] := by
  simp only [record]
  split
  · exact lastOf_suffix _ _
  · exact List.suffix_refl _

/-- A cut spares the finding that was recorded last. -/
theorem suffix_entries_record (l : Ledger) (f : Finding) : [f] <:+ (l.record f).entries := by
  have hf : [f] <:+ l.entries ++ [f] := List.suffix_append _ _
  simp only [Ledger.record]
  split
  · exact suffix_lastOf hf (Nat.le_max_left 1 _)
  · exact hf

/-- What was recorded last is a repeat. -/
theorem isRepeat_record {l : Ledger} (hw : 1 ≤ l.window) {f g : Finding} (hg : g.key = f.key) :
    (l.record f).isRepeat g = true := by
  rw [isRepeat_iff, hg]
  have hsuf := suffix_lastOf (suffix_entries_record l f) (n := (l.record f).window) hw
  exact List.mem_map_of_mem (hsuf.subset (List.mem_singleton_self f))

end SourceWatch.Ledger

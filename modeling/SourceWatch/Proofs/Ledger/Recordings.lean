import SourceWatch.Proofs.Ledger.Window
import Mathlib.Data.List.Induction

/-!
# What is left of recordings

A ledger that starts without entries holds the last of what is recorded.  How many these are follows from
the number of recordings alone: the entries grow up to the limit, fall back to what a cut leaves, and grow
again.

Main definitions:

* `Ledger.recordAll`: recording findings one after the other;
* `Ledger.heldAfter`: how many of so many recordings a ledger still holds;
* `Ledger.HoldsLast`: what a ledger holds after recordings, and what is certain of their number.

Main statements:

* `Ledger.heldAfter_succ`: what one more recording does to the number of entries;
* `Ledger.holdsLast_of_new`: a ledger that is new, or was just cleared, holds the last recordings.
-/

namespace SourceWatch.Ledger

/-- The ledger after findings are recorded one after the other. -/
def recordAll (l : Ledger) (fs : List Finding) : Ledger :=
  fs.foldl record l

/-- How many of `n` recordings a ledger with the given limit still holds.  The first cut comes with the
recording behind the limit, and another one whenever the entries have grown past the limit again. -/
def heldAfter (limit n : ℕ) : ℕ :=
  if n ≤ limit then n
  else max 1 (limit / 2) + (n - limit - 1) % (limit + 1 - max 1 (limit / 2))

/-! ### The number of entries -/

/-- Counting on in a round of `p` numbers starts over behind the last one. -/
theorem succ_mod_eq {p : ℕ} (hp : 0 < p) (k : ℕ) :
    (k + 1) % p = if k % p + 1 = p then 0 else k % p + 1 := by
  have hlt := Nat.mod_lt k hp
  rw [← Nat.mod_add_mod]
  by_cases h : k % p + 1 = p
  · rw [if_pos h, h, Nat.mod_self]
  · rw [if_neg h, Nat.mod_eq_of_lt (by omega)]

theorem heldAfter_of_le {limit n : ℕ} (h : n ≤ limit) : heldAfter limit n = n :=
  if_pos h

theorem heldAfter_of_lt {limit n : ℕ} (h : limit < n) :
    heldAfter limit n =
      max 1 (limit / 2) + (n - limit - 1) % (limit + 1 - max 1 (limit / 2)) :=
  if_neg (by omega)

/-- **One more recording.**  It adds an entry, unless it takes the entries past the limit and has them
cut. -/
theorem heldAfter_succ {limit : ℕ} (hl : 1 ≤ limit) (n : ℕ) :
    heldAfter limit (n + 1) =
      if limit < heldAfter limit n + 1 then max 1 (limit / 2) else heldAfter limit n + 1 := by
  have hround : 0 < limit + 1 - max 1 (limit / 2) := by omega
  rcases Nat.lt_trichotomy n limit with hbelow | rfl | habove
  · rw [heldAfter_of_le hbelow, heldAfter_of_le hbelow.le, if_neg (by omega)]
  · -- the ledger is full, and the first cut comes
    have hfirst : n + 1 - n - 1 = 0 := by omega
    rw [heldAfter_of_lt (Nat.lt_add_one n), heldAfter_of_le (Nat.le_refl n),
      if_pos (Nat.lt_add_one n), hfirst, Nat.zero_mod, Nat.add_zero]
  · -- the number of recordings since the first cut goes around
    have hsince : n + 1 - limit - 1 = (n - limit - 1) + 1 := by omega
    have hlt := Nat.mod_lt (n - limit - 1) hround
    rw [heldAfter_of_lt (by omega), heldAfter_of_lt habove, hsince, succ_mod_eq hround]
    by_cases hlast : (n - limit - 1) % (limit + 1 - max 1 (limit / 2)) + 1 =
        limit + 1 - max 1 (limit / 2)
    · rw [if_pos hlast, if_pos (by omega), Nat.add_zero]
    · rw [if_neg hlast, if_neg (by omega), Nat.add_assoc]

theorem heldAfter_le {limit : ℕ} (hl : 1 ≤ limit) (n : ℕ) : heldAfter limit n ≤ limit := by
  rcases Nat.lt_or_ge limit n with h | h
  · rw [heldAfter_of_lt h]
    have := Nat.mod_lt (n - limit - 1) (by omega : 0 < limit + 1 - max 1 (limit / 2))
    omega
  · rwa [heldAfter_of_le h]

theorem min_le_heldAfter (limit n : ℕ) : min n (max 1 (limit / 2)) ≤ heldAfter limit n := by
  unfold heldAfter
  split <;> omega

/-! ### Recording -/

theorem recordAll_append (l : Ledger) (fs gs : List Finding) :
    l.recordAll (fs ++ gs) = (l.recordAll fs).recordAll gs :=
  List.foldl_append

@[simp] theorem recordAll_concat (l : Ledger) (fs : List Finding) (f : Finding) :
    l.recordAll (fs ++ [f]) = (l.recordAll fs).record f :=
  l.recordAll_append fs [f]

@[simp] theorem limit_recordAll (l : Ledger) (fs : List Finding) :
    (l.recordAll fs).limit = l.limit := by
  induction fs using List.reverseRecOn with
  | nil => rfl
  | append_singleton fs f ih => rw [recordAll_concat, limit_record, ih]

/-- A recording adds an entry or has the entries cut. -/
theorem length_entries_record {l : Ledger} (hl : 1 ≤ l.limit) (f : Finding) :
    (l.record f).entries.length =
      if l.limit < l.entries.length + 1 then max 1 (l.limit / 2) else l.entries.length + 1 := by
  have hkept : l.kept ≤ l.limit := kept_le_limit hl
  simp only [record, List.length_append, List.length_singleton]
  split
  · rw [length_lastOf, List.length_append, List.length_singleton, Nat.min_eq_left (by omega), kept]
  · rw [List.length_append, List.length_singleton]

theorem length_entries_recordAll {l : Ledger} (hl : 1 ≤ l.limit) (hnil : l.entries = [])
    (fs : List Finding) : (l.recordAll fs).entries.length = heldAfter l.limit fs.length := by
  induction fs using List.reverseRecOn with
  | nil =>
    show l.entries.length = heldAfter l.limit 0
    rw [hnil, heldAfter, if_pos (Nat.zero_le _), List.length_nil]
  | append_singleton fs f ih =>
    rw [recordAll_concat, length_entries_record (by rwa [limit_recordAll]), ih, limit_recordAll,
      List.length_append, List.length_singleton, heldAfter_succ hl]

/-- A ledger without entries keeps in step with the log of what is recorded. -/
theorem tracks_recordAll {l : Ledger} (hl : 1 ≤ l.limit) (hnil : l.entries = [])
    (fs : List Finding) : (l.recordAll fs).Tracks fs := by
  induction fs using List.reverseRecOn with
  | nil =>
    show l.Tracks []
    have h := tracks_nil l.limit l.window
    rwa [← hnil] at h ⊢
  | append_singleton fs f ih =>
    rw [recordAll_concat]
    exact ih.record (by rwa [limit_recordAll]) f

/-! ### The main theorem -/

/-- **Holding the last recordings.**  After recordings a ledger holds the last of them, in their order.  They
are as many as `heldAfter` tells, never more than the limit, never fewer than what a cut leaves as far as
there are recordings, and the one recorded last is the last of them. -/
structure HoldsLast (l : Ledger) (limit : ℕ) (fs : List Finding) : Prop where
  entries : (l.recordAll fs).entries = lastOf (heldAfter limit fs.length) fs
  size : (l.recordAll fs).size = heldAfter limit fs.length
  atMost : (l.recordAll fs).size ≤ limit
  atLeast : min fs.length (max 1 (limit / 2)) ≤ (l.recordAll fs).size
  newest : (l.recordAll fs).entries.getLast? = fs.getLast?

theorem holdsLast_of_nil {l : Ledger} (hl : 1 ≤ l.limit) (hnil : l.entries = [])
    (fs : List Finding) : l.HoldsLast l.limit fs := by
  have hsize : (l.recordAll fs).size = heldAfter l.limit fs.length :=
    length_entries_recordAll hl hnil fs
  have htracks := tracks_recordAll hl hnil fs
  have hentries : (l.recordAll fs).entries = lastOf (heldAfter l.limit fs.length) fs := by
    rw [← lastOf_eq_of_suffix htracks.suffix (by rw [← hsize]; exact Nat.min_le_left _ _)]
    exact (lastOf_of_length_le hsize.le).symm
  refine
    { entries := hentries
      size := hsize
      atMost := hsize ▸ heldAfter_le hl _
      atLeast := hsize ▸ min_le_heldAfter _ _
      newest := ?_ }
  cases fs using List.reverseRecOn with
  | nil => exact congrArg List.getLast? hnil
  | append_singleton fs f =>
    -- a cut spares the finding that was recorded last
    obtain ⟨older, holder⟩ := suffix_entries_record (l.recordAll fs) f
    rw [recordAll_concat, ← holder, List.getLast?_concat, List.getLast?_concat]

/-- **What is left of recordings.**  A ledger that is new, or that was cleared after any calls, holds the
last of the findings that are recorded from then on. -/
theorem holdsLast_of_new {limit window : Int} (hl : 1 ≤ limit) (hw : 1 ≤ window) :
    ∃ l, create limit window = .ok l ∧
      ∀ start, (start = l ∨ ∃ calls, start = (Chronicle.run ⟨l, []⟩ calls).ledger.clear) →
        ∀ fs, start.HoldsLast limit.toNat fs := by
  refine ⟨_, create_of_pos hl hw, fun start hstart fs => ?_⟩
  have hlimit : start.limit = limit.toNat := by
    rcases hstart with rfl | ⟨calls, rfl⟩
    · rfl
    · exact ((Chronicle.inStep_start limit.toNat window.toNat).run (by omega) calls).limit_eq
  have hnil : start.entries = [] := by
    rcases hstart with rfl | ⟨calls, rfl⟩
    · rfl
    · rfl
  rw [← hlimit]
  exact holdsLast_of_nil (by omega) hnil fs

/-- After nine recordings behind another one and a clearing, a ledger for four findings holds three. -/
theorem holdsLast_of_new_four :
    (1 : Int) ≤ 4 ∧ (1 : Int) ≤ 3 ∧
      ∃ l, create 4 3 = .ok l ∧
        ((Chronicle.run ⟨l, []⟩ [.record (findingIn "a")]).ledger.clear).HoldsLast 4
          (List.replicate 9 (findingIn "b")) ∧ heldAfter 4 9 = 3 := by
  obtain ⟨l, hcreate, h⟩ := @holdsLast_of_new 4 3 (by decide) (by decide)
  exact ⟨by decide, by decide, l, hcreate, h _ (.inr ⟨_, rfl⟩) _, by decide⟩

end SourceWatch.Ledger

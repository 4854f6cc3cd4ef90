import SourceWatch.Proofs.Ledger.Recordings
import SourceWatch.Proofs.Ledger.Round

/-!
# How far apart equal keys are

A scan records a finding only if the window does not show its key; a test records its finding in any case.
So among the entries of a ledger, two with one key are further apart than the window reaches, unless the later
one was a test.  In the log of all recordings that need not hold: a cut may take the earlier one out of sight.

Main definitions:

* `Recording`: a finding that was recorded, and what recorded it;
* `Spaced`: only tests come close behind their like;
* `Ledger.HoldsSpaced`: a ledger holds the end of a log, and it is spaced.

Main statements:

* `Ledger.HoldsSpaced.record`: a recording keeps that up, if it is a test or no repeat;
* `Ledger.HoldsSpaced.acceptAll`: so does a round.
-/

namespace SourceWatch

/-- What records findings. -/
inductive Origin where
  | scan
  | test
  deriving DecidableEq

/-- A finding that was recorded, and what recorded it. -/
structure Recording where
  finding : Finding
  origin : Origin

/-- A finding that a scan recorded. -/
def Recording.scanned (f : Finding) : Recording :=
  ⟨f, .scan⟩

theorem map_finding_scanned (fs : List Finding) :
    (fs.map Recording.scanned).map Recording.finding = fs := by
  rw [List.map_map]
  exact List.map_id fs

/-- **Spacing.**  Of two recordings with one key that are at most `reach` apart, the later one is a test. -/
def Spaced (reach : ℕ) (held : List Recording) : Prop :=
  ∀ i j e f, i < j → j - i ≤ reach → held[i]? = some e → held[j]? = some f →
    e.finding.key = f.finding.key → f.origin = .test

namespace Spaced

variable {reach : ℕ} {held : List Recording}

theorem nil (reach : ℕ) : Spaced reach [] := by
  intro i j e f _ _ he
  rw [List.getElem?_nil] at he
  cases he

/-- The end of what is spaced is spaced. -/
theorem of_suffix {later : List Recording} (h : Spaced reach held) (hs : later <:+ held) :
    Spaced reach later := by
  obtain ⟨earlier, rfl⟩ := hs
  -- what stands at `i` in the end stands behind what was cut off
  have hplace : ∀ i, later[i]? = (earlier ++ later)[earlier.length + i]? := by
    intro i
    rw [List.getElem?_append_right (Nat.le_add_right _ _), Nat.add_sub_cancel_left]
  intro i j e f hij hreach he hf hkey
  rw [hplace] at he hf
  exact h (earlier.length + i) (earlier.length + j) e f (by omega) (by omega) he hf hkey

/-- A recording may follow if it is a test or if its key is out of reach. -/
theorem concat {r : Recording} (h : Spaced reach held)
    (hr : r.origin = .test ∨
      r.finding.key ∉ (Ledger.lastOf reach held).map fun e => e.finding.key) :
    Spaced reach (held ++ [r]) := by
  intro i j e f hij hreach he hf hkey
  have hj : j < (held ++ [r]).length := (List.getElem?_eq_some_iff.mp hf).1
  rw [List.length_append, List.length_singleton] at hj
  rw [List.getElem?_append_left (by omega)] at he
  rcases Nat.lt_or_ge j held.length with hold | hnew
  · rw [List.getElem?_append_left hold] at hf
    exact h i j e f hij hreach he hf hkey
  · -- the later one is the new one, and the earlier one is within its reach
    obtain rfl : j = held.length := by omega
    rw [List.getElem?_concat_length] at hf
    cases hf
    refine hr.resolve_right fun hfar => hfar ?_
    have hnear : (Ledger.lastOf reach held)[i - (held.length - reach)]? = some e := by
      rw [Ledger.lastOf, List.getElem?_drop, ← he]
      congr 1
      omega
    rw [← hkey]
    exact List.mem_map_of_mem (List.mem_of_getElem? hnear)

end Spaced

namespace Ledger

/-- **A ledger holds the end of a log, and it is spaced** as far as the window reaches. -/
def HoldsSpaced (l : Ledger) (log : List Recording) : Prop :=
  ∃ held, held <:+ log ∧ held.map Recording.finding = l.entries ∧ Spaced l.window held

variable {l : Ledger} {log : List Recording}

theorem holdsSpaced_of_nil (hnil : l.entries = []) : l.HoldsSpaced [] :=
  ⟨[], List.suffix_refl _, hnil.symm, Spaced.nil _⟩

/-- **A recording keeps entries apart,** if it is a test or no repeat. -/
theorem HoldsSpaced.record (h : l.HoldsSpaced log) (r : Recording)
    (hr : r.origin = .test ∨ ¬ l.isRepeat r.finding = true) :
    (l.record r.finding).HoldsSpaced (log ++ [r]) := by
  obtain ⟨held, hsuffix, hentries, hspaced⟩ := h
  have hlonger : held ++ [r] <:+ log ++ [r] :=
    (List.suffix_append_inj_of_length_eq rfl).mpr ⟨hsuffix, rfl⟩
  have hmap : (held ++ [r]).map Recording.finding = l.entries ++ [r.finding] := by
    rw [List.map_append, hentries]
    rfl
  have hnext : Spaced l.window (held ++ [r]) := by
    refine hspaced.concat (hr.imp_right fun hnew hmem => hnew ?_)
    rw [isRepeat_iff, ← hentries, lastOf_map, List.map_map]
    exact hmem
  -- what the recording leaves is the end of what was held and the new one
  obtain ⟨cut, hcut⟩ := l.entries_record_suffix r.finding
  rw [← hmap] at hcut
  obtain ⟨gone, kept, hparts, -, hkept⟩ := List.append_eq_map_iff.mp hcut
  have hkeptSuffix : kept <:+ held ++ [r] := ⟨gone, hparts.symm⟩
  exact ⟨kept, hkeptSuffix.trans hlonger, hkept, hnext.of_suffix hkeptSuffix⟩

/-- **A round keeps entries apart.** -/
theorem HoldsSpaced.acceptAll (h : l.HoldsSpaced log) (fs : List Finding) :
    (l.acceptAll fs).1.HoldsSpaced (log ++ (l.acceptAll fs).2.map Recording.scanned) := by
  induction fs generalizing l log with
  | nil =>
    rw [Ledger.acceptAll, List.map_nil, List.append_nil]
    exact h
  | cons f fs ih =>
    by_cases hf : l.isRepeat f = true
    · rw [acceptAll_cons_of_isRepeat hf]
      exact ih h
    · have hnext := ih (h.record (.scanned f) (.inr hf))
      rw [List.append_assoc] at hnext
      rw [acceptAll_cons_of_not_isRepeat hf]
      exact hnext

end Ledger

end SourceWatch

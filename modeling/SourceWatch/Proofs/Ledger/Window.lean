import SourceWatch.Proofs.Ledger.Log

/-!
# When the ledger implements the window

The window is meant to range over everything recorded since the ledger was last cleared.  The ledger
looks only at what its cuts have left.  The two agree on every sequence of calls exactly if the window
fits into the part that a cut leaves.

Main definitions:

* `Ledger.Call`, `Chronicle.run`: sequences of calls, with the log that they write;
* `Ledger.AnswersByLog`: every question of a sequence is answered as by the window over the log.

Main statement: `Ledger.answersByLog_iff_window_le`.
-/

namespace SourceWatch

/-- A call of a ledger that changes it. -/
inductive Ledger.Call where
  | record (f : Finding)
  | accept (f : Finding)
  | clear

/-- A ledger beside the log of what was recorded since it was last cleared. -/
structure Chronicle where
  ledger : Ledger
  log : List Finding

namespace Chronicle

open Ledger

/-- Ledger and log after a call. -/
def call (s : Chronicle) : Call → Chronicle
  | .record f => ⟨s.ledger.record f, s.log ++ [f]⟩
  | .accept f =>
    ⟨(s.ledger.accept f).1, if (s.ledger.accept f).2 then s.log ++ [f] else s.log⟩
  | .clear => ⟨s.ledger.clear, []⟩

/-- Ledger and log after a sequence of calls. -/
def run (s : Chronicle) (calls : List Call) : Chronicle :=
  calls.foldl call s

/-- Ledger and log have the bounds `limit` and `window` and are in step. -/
structure InStep (limit window : ℕ) (s : Chronicle) : Prop where
  limit_eq : s.ledger.limit = limit
  window_eq : s.ledger.window = window
  tracks : s.ledger.Tracks s.log

variable {limit window : ℕ} {s : Chronicle}

theorem InStep.record (h : InStep limit window s) (hl : 1 ≤ limit) (f : Finding) :
    InStep limit window ⟨s.ledger.record f, s.log ++ [f]⟩ :=
  ⟨h.limit_eq, h.window_eq, h.tracks.record (h.limit_eq ▸ hl) f⟩

/-- A call keeps ledger and log in step. -/
theorem InStep.call (h : InStep limit window s) (hl : 1 ≤ limit) (c : Call) :
    InStep limit window (s.call c) := by
  cases c with
  | record f => exact h.record hl f
  | accept f =>
    by_cases hf : s.ledger.isRepeat f = true
    · simpa [Chronicle.call, accept_of_isRepeat hf] using h
    · simpa [Chronicle.call, accept_of_not_isRepeat hf] using h.record hl f
  | clear =>
    refine ⟨h.limit_eq, h.window_eq, ?_⟩
    exact tracks_nil s.ledger.limit s.ledger.window

/-- **Every sequence of calls keeps ledger and log in step.** -/
theorem InStep.run (h : InStep limit window s) (hl : 1 ≤ limit) (calls : List Call) :
    InStep limit window (s.run calls) := by
  induction calls generalizing s with
  | nil => exact h
  | cons c calls ih => exact ih (h.call hl c)

theorem inStep_start (limit window : ℕ) : InStep limit window ⟨⟨limit, window, []⟩, []⟩ :=
  ⟨rfl, rfl, tracks_nil limit window⟩

/-- A sequence of recordings writes just these findings to the log. -/
theorem log_run_records (s : Chronicle) (fs : List Finding) :
    (s.run (fs.map .record)).log = s.log ++ fs := by
  induction fs generalizing s with
  | nil => simp [run]
  | cons f fs ih =>
    rw [List.map_cons, run, List.foldl_cons]
    show ((s.call (.record f)).run (fs.map .record)).log = s.log ++ f :: fs
    rw [ih]
    simp [call]

end Chronicle

namespace Ledger

/-- Whether a ledger that starts without entries answers every `accept` among `calls` as the window over
the log would: no, if and only if the key is among the last `window` keys recorded since the ledger was
last cleared. -/
def AnswersByLog (l : Ledger) (calls : List Call) : Prop :=
  ∀ earlier f later, calls = earlier ++ .accept f :: later →
    let s := Chronicle.run ⟨l, []⟩ earlier
    (s.ledger.accept f).2 = false ↔ f.key ∈ (lastOf l.window s.log).map Finding.key

/-! ### A window that fits -/

theorem answersByLog_of_window_le {limit window : ℕ} (hl : 1 ≤ limit)
    (hw : window ≤ max 1 (limit / 2)) (calls : List Call) :
    AnswersByLog ⟨limit, window, []⟩ calls := by
  intro earlier f later _
  have h := (Chronicle.inStep_start limit window).run hl earlier
  have hfit := h.tracks.lastOf_entries (by rw [h.window_eq, kept, h.limit_eq]; exact hw)
  rw [h.window_eq] at hfit
  simp only [accept_snd, Bool.not_eq_false']
  rw [isRepeat_iff, h.window_eq, hfit]

/-! ### A window that does not fit -/

/-- A finding about nothing but a file. -/
def findingIn (path : String) : Finding :=
  { id := ""
    category := keywordCategory
    severity := .medium
    filePath := path
    matchedKeyword := none
    message := ""
    detectedAt := ⟨0⟩
    cycle := 0
    rule := none }

/-- Recordings that fill a ledger past its limit with two keys.  The cut leaves the second key only. -/
def overflow (limit : ℕ) : List Finding :=
  List.replicate (limit + 1 - max 1 (limit / 2)) (findingIn "a") ++
    List.replicate (max 1 (limit / 2)) (findingIn "b")

theorem entries_run_overflow {limit window : ℕ} (hl : 1 ≤ limit) :
    (Chronicle.run ⟨⟨limit, window, []⟩, []⟩ ((overflow limit).map .record)).ledger.entries =
      List.replicate (max 1 (limit / 2)) (findingIn "b") := by
  obtain ⟨k, hk⟩ : ∃ k, max 1 (limit / 2) = k + 1 := ⟨max 1 (limit / 2) - 1, by omega⟩
  -- all but the last recording just fill the ledger
  let filling := List.replicate (limit + 1 - (k + 1)) (findingIn "a") ++
    List.replicate k (findingIn "b")
  have hsplit : overflow limit = filling ++ [findingIn "b"] := by
    rw [overflow, hk, List.replicate_succ', ← List.append_assoc]
  have hfilling : filling.length = limit := by
    simp only [filling, List.length_append, List.length_replicate]
    omega
  have h := (Chronicle.inStep_start limit window).run hl (filling.map .record)
  have hentries := h.tracks.whole (by
    rw [Chronicle.log_run_records, h.limit_eq, List.nil_append, hfilling])
  rw [Chronicle.log_run_records, List.nil_append] at hentries
  -- the last one is a recording into a full ledger
  rw [hsplit, List.map_append, Chronicle.run, List.foldl_append]
  show (Ledger.record _ (findingIn "b")).entries = _
  rw [Ledger.record, show List.foldl Chronicle.call ⟨⟨limit, window, []⟩, []⟩
    (filling.map .record) = Chronicle.run ⟨⟨limit, window, []⟩, []⟩ (filling.map .record) from rfl,
    hentries, h.limit_eq, List.length_append, hfilling, List.length_singleton,
    if_pos (Nat.lt_succ_self limit), kept, h.limit_eq, ← hsplit, overflow]
  rw [lastOf_append_of_le (by rw [List.length_replicate]), lastOf_of_length_le (by simp)]

/-- Behind the cut lies a key that the window still covers. -/
theorem not_answersByLog_of_lt_window {limit window : ℕ} (hl : 1 ≤ limit)
    (hw : max 1 (limit / 2) < window) :
    ¬ ∀ calls, AnswersByLog ⟨limit, window, []⟩ calls := by
  intro h
  have hcalls := h _ ((overflow limit).map .record) (findingIn "a") [] rfl
  have hstep := (Chronicle.inStep_start limit window).run hl ((overflow limit).map .record)
  simp only [accept_snd, Bool.not_eq_false'] at hcalls
  rw [isRepeat_iff, hstep.window_eq, entries_run_overflow hl, Chronicle.log_run_records,
    List.nil_append] at hcalls
  -- the window over the log reaches back to the first key
  have hsuf : findingIn "a" :: List.replicate (max 1 (limit / 2)) (findingIn "b") <:+
      overflow limit := by
    refine ⟨List.replicate (limit - max 1 (limit / 2)) (findingIn "a"), ?_⟩
    rw [overflow, show limit + 1 - max 1 (limit / 2) = limit - max 1 (limit / 2) + 1 by omega,
      List.replicate_succ']
    simp
  have hlog : findingIn "a" ∈ lastOf window (overflow limit) :=
    (suffix_lastOf hsuf (by simp; omega)).subset List.mem_cons_self
  have hentries := hcalls.mpr (List.mem_map_of_mem hlog)
  -- but the ledger holds the second key only
  obtain ⟨f, hf, hkey⟩ := List.mem_map.mp hentries
  have hb : f = findingIn "b" := List.eq_of_mem_replicate ((lastOf_suffix _ _).subset hf)
  rw [hb] at hkey
  exact absurd hkey (by decide)

/-! ### The main theorem -/

/-- **The ledger implements the window exactly if the window fits the part that a cut leaves.**  For all
bounds of at least one, a new ledger answers every sequence of calls as the window over the whole log
would if and only if the window is no longer than half the limit, or one. -/
theorem answersByLog_iff_window_le {limit window : Int} (hl : 1 ≤ limit) (hw : 1 ≤ window) :
    ∃ l, create limit window = .ok l ∧
      ((∀ calls, AnswersByLog l calls) ↔ window ≤ max 1 (limit / 2)) := by
  refine ⟨_, create_of_pos hl hw, ?_⟩
  have hnat : window ≤ max 1 (limit / 2) ↔ window.toNat ≤ max 1 (limit.toNat / 2) := by omega
  rw [hnat]
  constructor
  · intro h
    by_contra hlt
    exact not_answersByLog_of_lt_window (by omega) (by omega) h
  · intro hfit calls
    exact answersByLog_of_window_le (by omega) hfit calls

theorem answersByLog_iff_four_three :
    (1 : Int) ≤ 4 ∧ (1 : Int) ≤ 3 ∧
      ∃ l, create 4 3 = .ok l ∧ ((∀ calls, AnswersByLog l calls) ↔ (3 : Int) ≤ max 1 (4 / 2)) :=
  ⟨by decide, by decide, answersByLog_iff_window_le (by decide) (by decide)⟩

end Ledger

end SourceWatch

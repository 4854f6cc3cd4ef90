import SourceWatch.Proofs.Monitor.Session

/-!
# Loops

A start that succeeds leaves a loop behind that waits for the end of its session; stopping or closing tells the
loop of the open session to end.  The timers of a monitor are the loops that nobody has told to end.

Main definitions:

* `Moment.loopStarted?`, `Moment.eventSet?`: the loop that an operation starts, and the session whose loop it tells
  to end;
* `unsetLoops`: the loops that were started and that nobody has told to end.

Main statements:

* `Monitor.Performs.timers_eq`: what one operation makes of the timers;
* `Monitor.Performs.session_of_loopStarted`: every loop belongs to a session of its own;
* `unsetLoops_concat`: what one operation more makes of the loops.
-/

namespace SourceWatch

/-- Whether a start or a stop succeeded. -/
def succeeds : Except MonitorFault Answer → Bool
  | .ok (.changed b) => b
  | _ => false

namespace Action

/-- The loop that a start leaves to wait for the end of its session, if it succeeds. -/
def loopStarted? (next : Monitor) (result : Except MonitorFault Answer) : Action → Option Timer
  | .start _ =>
    if succeeds result then
      next.session.map fun session => ⟨session, next.interval⟩
    else none
  | _ => none

/-- The session whose loop a stop or a close tells to end. -/
def eventSet? (before : Monitor) : Action → Option ℕ
  | .stop | .close => if before.running then before.session else none
  | _ => none

end Action

namespace Moment

/-- The loop that the operation starts. -/
def loopStarted? (t : Moment) : Option Timer :=
  t.action.loopStarted? t.outcome.monitor t.outcome.result

/-- The session whose loop the operation tells to end. -/
def eventSet? (t : Moment) : Option ℕ :=
  t.action.eventSet? t.before

end Moment

/-- The loops that were started and that nobody has told to end. -/
def unsetLoops (past : List Moment) : List Timer :=
  (past.filterMap Moment.loopStarted?).filter fun loop =>
    loop.session ∉ past.filterMap Moment.eventSet?

namespace Monitor

variable {m n : Monitor} {c : Circumstances} {a : Action} {jobs : List Job}

/-! ### One operation -/

/-- A start that succeeds starts the loop of the session that it leaves open. -/
theorem loopStarted_of_session {session : ℕ} (hs : m.session = some session) (interval : Option Int) :
    Action.loopStarted? m.armTimer (.ok (.changed true)) (.start interval) =
      some ⟨session, m.interval⟩ := by
  show m.armTimer.session.map _ = _
  rw [armTimer_of_session hs, hs]
  rfl

/-- **What an operation makes of the timers.**  The one of the session that is ended goes, and the one of the
session that is opened comes. -/
theorem Performs.timers_eq {result : Except MonitorFault Answer} (h : Performs m c a n result jobs) :
    n.timers = (m.timers.filter fun timer => some timer.session ≠ a.eventSet? m) ++
      (a.loopStarted? n result).toList := by
  have hkept : m.timers = (m.timers.filter fun timer => some timer.session ≠ none) ++ [] := by simp
  induction h with
  | scan attempt => exact attempt.sameSession.timers.trans hkept
  | tick attempt => exact attempt.sameSession.timers.trans hkept
  | @started _ n _ _ _ _ _ attempt =>
    have hsession := attempt.sameSession.session
    rw [loopStarted_of_session hsession, armTimer_of_session hsession]
    show n.timers ++ _ = (m.timers.filter fun timer => some timer.session ≠ none) ++ _
    rw [attempt.sameSession.timers, ← List.append_nil (m.timers.filter _), ← hkept]
    rfl
  | notRunning idle =>
    rw [Action.eventSet?, idle]
    exact hkept
  | stopRefused running =>
    rw [Action.eventSet?, running]
    exact (List.append_nil _).symm
  | stopped running =>
    rw [Action.eventSet?, running]
    exact (List.append_nil _).symm
  | closeRefused _ ih => exact ih
  | closed _ ih => exact ih
  | _ => exact hkept

/-- A session that is opened bears a number of its own. -/
theorem Performs.session_of_loopStarted {result : Except MonitorFault Answer} {loop : Timer}
    (h : Performs m c a n result jobs) (hloop : a.loopStarted? n result = some loop) :
    loop.session = m.sessions ∧ a.eventSet? m = none := by
  cases h with
  | started _ _ _ attempt =>
    rw [loopStarted_of_session attempt.sameSession.session] at hloop
    exact ⟨by rw [← Option.some.inj hloop], rfl⟩
  | _ => cases hloop

theorem Attempt.sessions_eq {result : Except MonitorFault Report} (h : Attempt m c n result jobs) :
    n.sessions = m.sessions := by
  cases h <;> rfl

/-- Sessions are counted on. -/
theorem Performs.sessions_le {result : Except MonitorFault Answer} (h : Performs m c a n result jobs) :
    m.sessions ≤ n.sessions := by
  induction h with
  | scan attempt => exact attempt.sessions_eq.ge
  | tick attempt => exact attempt.sessions_eq.ge
  | started _ _ _ attempt =>
    rw [armTimer_of_session attempt.sameSession.session]
    exact (Nat.le_succ _).trans attempt.sessions_eq.ge
  | startRefused => exact Nat.le_succ _
  | closeRefused _ ih => exact ih
  | closed _ ih => exact ih
  | _ => exact le_rfl

/-- The session that is open was counted. -/
theorem Performs.session_lt {result : Except MonitorFault Answer} (h : Performs m c a n result jobs)
    (hm : ∀ s ∈ m.session, s < m.sessions) : ∀ s ∈ n.session, s < n.sessions := by
  have hattempt : ∀ {k l result jobs}, Attempt k c l result jobs → (∀ s ∈ k.session, s < k.sessions) →
      ∀ s ∈ l.session, s < l.sessions := by
    intro k l result jobs attempt hk
    rw [attempt.sameSession.session, attempt.sessions_eq]
    exact hk
  have hopened : ∀ s ∈ some m.sessions, s < m.sessions + 1 := by
    intro s hs
    rw [← Option.some.inj hs]
    exact Nat.lt_succ_self _
  induction h with
  | scan attempt => exact hattempt attempt hm
  | tick attempt => exact hattempt attempt hm
  | started _ _ _ attempt =>
    have hcounted := hattempt attempt hopened
    rw [armTimer_of_session attempt.sameSession.session]
    exact hcounted
  | startRefused => exact hopened
  | stopRefused => nofun
  | stopped => nofun
  | closeRefused _ ih => exact ih
  | closed _ ih => exact ih
  | _ => exact hm

end Monitor

/-! ### The loops of a course -/

/-- A session that is ended was open. -/
theorem Action.mem_of_eventSet {m : Monitor} {a : Action} {session : ℕ}
    (h : a.eventSet? m = some session) : session ∈ m.session := by
  unfold eventSet? at h
  split at h
  · split at h
    · exact h
    · cases h
  · split at h
    · exact h
    · cases h
  · cases h

/-- One operation more. -/
theorem unsetLoops_concat (past : List Moment) (t : Moment)
    (hfresh : ∀ loop ∈ t.loopStarted?, loop.session ∉ past.filterMap Moment.eventSet? ∧ t.eventSet? = none) :
    unsetLoops (past ++ [t]) =
      ((unsetLoops past).filter fun loop => some loop.session ≠ t.eventSet?) ++ t.loopStarted?.toList := by
  have hold : ∀ loop : Timer, decide (loop.session ∉ (past ++ [t]).filterMap Moment.eventSet?) =
      (decide (some loop.session ≠ t.eventSet?) &&
        decide (loop.session ∉ past.filterMap Moment.eventSet?)) := by
    intro loop
    rw [List.filterMap_append, ← Bool.decide_and]
    cases he : t.eventSet? <;> simp [he, and_comm]
  have hnew : (t.loopStarted?.toList).filter
      (fun loop => loop.session ∉ (past ++ [t]).filterMap Moment.eventSet?) = t.loopStarted?.toList := by
    rw [List.filter_eq_self]
    intro loop hloop
    obtain ⟨hpast, hnow⟩ := hfresh loop (Option.mem_toList.mp hloop)
    rw [hold loop, hnow]
    simpa using hpast
  have hsplit : (past ++ [t]).filterMap Moment.loopStarted? =
      past.filterMap Moment.loopStarted? ++ t.loopStarted?.toList := by
    rw [List.filterMap_append]
    cases h : t.loopStarted? <;> simp [h]
  rw [unsetLoops, hsplit, List.filter_append, hnew, unsetLoops, List.filter_filter]
  simp only [hold]

end SourceWatch

import SourceWatch.Proofs.Monitor.Run

/-!
# Sessions

A monitor that is running has a session open, and the session has one timer.  Only a start that succeeds arms a
timer.  Starting, stopping and closing leave everything as it was when they fail, as long as the dispatcher takes
jobs.  On a monitor that was closed they fail at their announcement, after the session was opened or ended.

Main definitions:

* `Monitor.SessionKept`: the open session and the timers agree;
* `Moment.Arms`: a timer is armed by a start that succeeds.

Main statements:

* `Run.sessionKept`: the open session and the timers agree after every run;
* `Run.lifecycle_atomic`: what a start, a stop or a close leaves behind when it fails;
* `Run.start_not_atomic_after_close`: a start of a closed monitor that fails has opened a session.
-/

namespace SourceWatch

namespace Monitor

/-- **The open session and the timers agree.**  An idle monitor has no timer, and neither has one whose
dispatcher refuses; else a monitor that is running has just the timer of its session. -/
structure SessionKept (m : Monitor) : Prop where
  idle : m.running = false → m.session = none ∧ m.timers = []
  refusing : m.dispatcher.refuses = true → m.timers = []
  running : m.running = true → m.dispatcher.refuses = false →
    ∃ session, m.session = some session ∧ m.timers = [⟨session, m.interval⟩]

/-- Two monitors with the same session, the same timers, and dispatchers that both refuse or both take
jobs. -/
structure SameSession (m n : Monitor) : Prop where
  running : n.running = m.running
  session : n.session = m.session
  timers : n.timers = m.timers
  interval : n.interval = m.interval
  refuses : n.dispatcher.refuses = m.dispatcher.refuses

variable {m n : Monitor} {c : Circumstances} {a : Action} {jobs : List Job}

theorem SessionKept.of_sameSession (h : m.SessionKept) (hs : SameSession m n) : n.SessionKept := by
  obtain ⟨hrunning, hsession, htimers, hinterval, hrefuses⟩ := hs
  constructor
  · rw [hrunning, hsession, htimers]
    exact h.idle
  · rw [hrefuses, htimers]
    exact h.refusing
  · rw [hrunning, hrefuses, hsession, htimers, hinterval]
    exact h.running

/-- An attempt to scan leaves the session alone. -/
theorem Attempt.sameSession {result : Except MonitorFault Report}
    (h : Attempt m c n result jobs) : SameSession m n := by
  have hrefuses : n.dispatcher.refuses = m.dispatcher.refuses := by
    rw [h.dispatcher_eq, Dispatcher.refuses_taking]
  cases h <;> exact ⟨rfl, rfl, rfl, rfl, hrefuses⟩

/-- Ending the session disarms its timer. -/
theorem SessionKept.timers_endSession (h : m.SessionKept) : m.endSession.timers = [] := by
  cases hrun : m.running with
  | false =>
    have htimers := (h.idle hrun).2
    rw [endSession, htimers]
    rfl
  | true =>
    cases hrefuses : m.dispatcher.refuses with
    | true =>
      have htimers := h.refusing hrefuses
      rw [endSession, htimers]
      rfl
    | false =>
      obtain ⟨session, hsession, htimers⟩ := h.running hrun hrefuses
      simp [endSession, hsession, htimers]

/-- A monitor without a session or a timer is one whose session and timers agree. -/
theorem SessionKept.of_idle (hrun : m.running = false) (hsession : m.session = none)
    (htimers : m.timers = []) : m.SessionKept where
  idle := fun _ => ⟨hsession, htimers⟩
  refusing := fun _ => htimers
  running := fun h => by rw [hrun] at h; cases h

theorem SessionKept.endSession (h : m.SessionKept) (d : Dispatcher) :
    SessionKept { m.endSession with dispatcher := d } :=
  .of_idle rfl rfl h.timers_endSession

/-- What stopping leaves behind is idle. -/
theorem SessionKept.stop {result : Except MonitorFault Answer} (h : m.SessionKept)
    (hstop : Performs m c .stop n result jobs) (d : Dispatcher) :
    SessionKept { n with dispatcher := d } := by
  cases hstop with
  | notRunning idle => exact .of_idle idle (h.idle idle).1 (h.idle idle).2
  | stopRefused => exact h.endSession d
  | stopped => exact h.endSession d

/-- A session that is opened has just the timer that is armed for it. -/
theorem SessionKept.started (h : m.SessionKept) (idle : m.running = false)
    (accepts : m.dispatcher.refuses = false) {interval : Option Int}
    (hs : SameSession (m.announced interval) n) : n.armTimer.SessionKept := by
  have hsession : n.session = some m.sessions := hs.session
  have htimers : n.timers = [] := hs.timers.trans (h.idle idle).2
  have haccepts : n.dispatcher.refuses = false :=
    hs.refuses.trans ((refuses_announced m interval).trans accepts)
  rw [armTimer_of_session hsession, htimers]
  exact
    { idle := fun hidle => by
        have hrunning : n.running = true := hs.running
        rw [hrunning] at hidle
        cases hidle
      refusing := fun hrefuses => by
        rw [haccepts] at hrefuses
        cases hrefuses
      running := fun _ _ => ⟨m.sessions, hsession, rfl⟩ }

/-- **Every operation keeps session and timers in agreement.** -/
theorem SessionKept.performs {result : Except MonitorFault Answer} (h : m.SessionKept)
    (hperforms : Performs m c a n result jobs) : n.SessionKept := by
  cases hperforms with
  | scan attempt => exact h.of_sameSession attempt.sameSession
  | tick attempt => exact h.of_sameSession attempt.sameSession
  | alreadyRunning => exact h
  | tooShort => exact h
  | startRefused idle long refuses =>
    exact
      { idle := fun hidle => nomatch hidle
        refusing := fun _ => (h.idle idle).2
        running := fun _ haccepts => by
          have hsame : m.dispatcher.refuses = false := haccepts
          rw [refuses] at hsame
          cases hsame }
  | started idle long accepts attempt => exact h.started idle accepts attempt.sameSession
  | notRunning idle => exact h
  | stopRefused => exact h.endSession m.dispatcher
  | stopped => exact h.endSession _
  | testRefused => exact h.of_sameSession ⟨rfl, rfl, rfl, rfl, rfl⟩
  | tested =>
    exact h.of_sameSession ⟨rfl, rfl, rfl, rfl, Dispatcher.refuses_taking _ _⟩
  | closeRefused hstop => exact h.stop hstop n.dispatcher
  | closed hstop => exact h.stop hstop _

end Monitor

namespace Run

variable {start m : Monitor} {past : List Moment}

/-- **After every run the open session and the timers agree.** -/
theorem sessionKept (run : Run start past m) (made : start.Made) : m.SessionKept := by
  obtain ⟨config, ledger, sinks, probe, -, rfl⟩ := made.eq_initial
  exact run.invariant Monitor.SessionKept (.of_idle rfl rfl rfl)
    (fun _ _ h => h.of_sameSession ⟨rfl, rfl, rfl, rfl, rfl⟩) fun _ hperforms h => h.performs hperforms

end Run

/-! ### Failing -/

/-- Whether an operation opens or ends a session. -/
def Action.isLifecycle : Action → Bool
  | .start _ | .stop | .close => true
  | .scan | .tick | .test => false

/-- The operation is a start that succeeds, and it arms the timer. -/
structure Moment.Arms (t : Moment) (timer : Timer) : Prop where
  start : ∃ interval, t.action = .start interval
  succeeds : t.outcome.result = .ok (.changed true)
  unarmed : timer ∉ t.before.timers
  armed : timer ∈ t.outcome.monitor.timers

namespace Monitor

variable {m n : Monitor} {c : Circumstances} {a : Action} {jobs : List Job}

/-- The other operations leave the monitor running or idle. -/
theorem Performs.running_eq {result : Except MonitorFault Answer} (h : Performs m c a n result jobs)
    (ha : a.isLifecycle = false) : n.running = m.running := by
  cases h with
  | scan attempt => exact attempt.sameSession.running
  | tick attempt => exact attempt.sameSession.running
  | tested => rfl
  | testRefused => rfl
  | _ => cases ha

/-- A start that succeeds leaves the monitor running. -/
theorem Performs.running_of_started {interval : Option Int}
    (h : Performs m c (.start interval) n (.ok (.changed true)) jobs) : n.running = true := by
  cases h with
  | started _ _ _ attempt =>
    rw [armTimer_of_session attempt.sameSession.session]
    exact attempt.sameSession.running

/-- **What a failure leaves behind.**  A start, a stop or a close that fails leaves the timers as they were, and
also everything else unless the dispatcher refuses its announcement. -/
theorem Performs.lifecycle_error {result : Except MonitorFault Answer} {fault : MonitorFault}
    (h : Performs m c a n result jobs) (kept : m.SessionKept) (ha : a.isLifecycle = true)
    (hr : result = .error fault) :
    n.timers = m.timers ∧
      (n = m ∨ fault = .dispatcherClosed ∧ m.dispatcher.refuses = true ∧ n.running = !m.running) := by
  -- closing fails as its stop does, hence the induction
  induction h generalizing fault with
  | tooShort => exact ⟨rfl, .inl rfl⟩
  | startRefused idle long refuses =>
    cases hr
    refine ⟨rfl, .inr ⟨rfl, refuses, ?_⟩⟩
    rw [idle]
    rfl
  | stopRefused running refuses =>
    cases hr
    refine ⟨?_, .inr ⟨rfl, refuses, ?_⟩⟩
    · rw [kept.timers_endSession, kept.refusing refuses]
    · rw [running]
      rfl
  | closeRefused stop ih =>
    cases hr
    exact ih rfl rfl
  | scan => cases ha
  | tick => cases ha
  | testRefused => cases ha
  | _ => cases hr

/-- Only a start that succeeds arms a timer. -/
theorem Performs.timers {result : Except MonitorFault Answer} {timer : Timer}
    (h : Performs m c a n result jobs) (kept : m.SessionKept) (ht : timer ∈ n.timers) :
    timer ∈ m.timers ∨
      (∃ interval, a = .start interval) ∧ result = .ok (.changed true) ∧ timer ∉ m.timers := by
  have hended : timer ∉ m.endSession.timers := by
    rw [kept.timers_endSession]
    exact List.not_mem_nil
  cases h with
  | scan attempt => exact .inl (attempt.sameSession.timers ▸ ht)
  | tick attempt => exact .inl (attempt.sameSession.timers ▸ ht)
  | started idle =>
    refine .inr ⟨⟨_, rfl⟩, rfl, ?_⟩
    rw [(kept.idle idle).2]
    exact List.not_mem_nil
  | stopRefused => exact absurd ht hended
  | stopped => exact absurd ht hended
  | closeRefused stop =>
    cases stop
    exact absurd ht hended
  | closed stop =>
    cases stop with
    | notRunning => exact .inl ht
    | stopped => exact absurd ht hended
  | _ => exact .inl ht

end Monitor

namespace Run

variable {start m : Monitor} {past : List Moment}

/-- Every timer was armed by a start that succeeded. -/
theorem exists_arms (made : start.Made) (run : Run start past m) {timer : Timer}
    (ht : timer ∈ m.timers) : ∃ t ∈ past, t.Arms timer := by
  induction run with
  | here =>
    obtain ⟨config, ledger, sinks, probe, -, rfl⟩ := made.eq_initial
    cases ht
  | probe _ p ih => exact ih ht
  | @step past m run c a enabled ih =>
    have hperforms := Monitor.perform_performs m c a
    rcases hperforms.timers (run.sessionKept made) ht with hold | ⟨hstart, hresult, hnew⟩
    · obtain ⟨t, ht, harms⟩ := ih hold
      exact ⟨t, List.mem_append_left _ ht, harms⟩
    · exact ⟨⟨m, c, a⟩, List.mem_append_right _ (List.mem_singleton_self _), hstart, hresult, hnew, ht⟩

/-- **Starting, stopping and closing.**  When one of them fails, the timers are what they were, and so is
everything else unless the monitor was closed.  And a monitor that is running has one timer, which was armed by a
start that succeeded, unless it was closed. -/
theorem lifecycle_atomic (made : start.Made) (run : Run start past m) :
    (∀ c (a : Action) fault, a.isLifecycle = true → (m.perform c a).result = .error fault →
        (m.perform c a).monitor.timers = m.timers ∧
          ((m.perform c a).monitor = m ∨ fault = .dispatcherClosed ∧ m.dispatcher.refuses = true ∧
            (m.perform c a).monitor.running = !m.running)) ∧
      (m.running = true → m.dispatcher.refuses = false →
        ∃ timer, m.timers = [timer] ∧ ∃ t ∈ past, t.Arms timer) := by
  have kept := run.sessionKept made
  refine ⟨fun c a fault ha hfault => ?_, fun hrunning haccepts => ?_⟩
  · exact (Monitor.perform_performs m c a).lifecycle_error kept ha hfault
  · obtain ⟨session, -, htimers⟩ := kept.running hrunning haccepts
    refine ⟨_, htimers, run.exists_arms made ?_⟩
    rw [htimers]
    exact List.mem_singleton_self _

theorem lifecycle_atomic_plain :
    let started := Monitor.plain.perform Monitor.quiet (.start none)
    ∃ timer, started.monitor.timers = [timer] ∧
      ∃ t ∈ [⟨.plain, Monitor.quiet, .start none⟩], Moment.Arms t timer := by
  intro started
  have hrun := Run.step (@Run.here Monitor.plain) Monitor.quiet (.start none) nofun
  have hattempt := Monitor.scan_attempts (Monitor.plain.announced none) Monitor.quiet
  have hstarted : started.monitor =
      ((Monitor.plain.announced none).scan Monitor.quiet).monitor.armTimer := by
    rw [← Monitor.monitor_guardedScan]
    exact congrArg Outcome.monitor (Monitor.start_of_accepts rfl rfl rfl Monitor.quiet)
  have hsession := hattempt.sameSession.session
  refine (lifecycle_atomic Monitor.made_plain hrun).2 ?_ ?_
  · show started.monitor.running = true
    rw [hstarted, Monitor.armTimer_of_session hsession]
    exact hattempt.sameSession.running
  · show started.monitor.dispatcher.refuses = false
    rw [hstarted, Monitor.armTimer_of_session hsession]
    exact hattempt.sameSession.refuses

/-- **A start after closing.**  A start of a closed monitor fails at its announcement; by then the monitor is
running, at the new interval, and no timer is armed. -/
theorem start_not_atomic_after_close :
    let closed := (Monitor.plain.perform Monitor.quiet .close).monitor
    let started := closed.perform Monitor.quiet (.start (some 7))
    Run .plain [⟨.plain, Monitor.quiet, .close⟩] closed ∧
      started.result = .error .dispatcherClosed ∧
      (closed.running = false ∧ started.monitor.running = true) ∧
      (closed.interval = 60 ∧ started.monitor.interval = 7) ∧ started.monitor.timers = [] :=
  ⟨.step .here Monitor.quiet .close nofun, rfl, ⟨rfl, rfl⟩, ⟨rfl, rfl⟩, rfl⟩

end Run

end SourceWatch

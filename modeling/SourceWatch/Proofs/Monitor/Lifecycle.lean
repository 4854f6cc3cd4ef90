import SourceWatch.Proofs.Monitor.Announcements
import SourceWatch.Proofs.Monitor.Loops

/-!
# Starting and stopping

A start opens a session unless one is open, and a stop ends the one that is open.  What the sinks were told, the
loops that nobody has told to end, and the interval that a start was given last: each of them shows whether a
session is open, or how it was opened, after whatever was asked of the monitor.

Main definitions:

* `Moment.intervalGiven?`: the interval that an operation gives to the monitor;
* `Monitor.StartsAndStops`: what starting and stopping yield, and when they change nothing;
* `SessionsTracked`: what is kept of the sessions along a course;
* `SessionsTold`: what a course tells of its sessions.

Main statements:

* `Monitor.result_start`, `Monitor.startsAndStops`: what starting and stopping yield;
* `SessionsTracked.perform`, `Monitor.sessionsTracked`: what one operation keeps, and what a course keeps;
* `Monitor.sessions_told`: what a course tells of its sessions.
-/

namespace SourceWatch

/-- The interval that a start gives to a monitor: the one that it names, if it succeeds. -/
def Action.intervalGiven? (result : Except MonitorFault Answer) : Action → Option Int
  | .start interval => if succeeds result then interval else none
  | _ => none

/-- The interval that the operation gives to the monitor. -/
def Moment.intervalGiven? (t : Moment) : Option Int :=
  t.action.intervalGiven? t.outcome.result

namespace Monitor

variable {m n : Monitor} {c : Circumstances} {a : Action} {jobs : List Job}

/-! ### One operation -/

/-- What an operation makes of the interval, while the dispatcher takes jobs. -/
theorem Performs.interval_eq {result : Except MonitorFault Answer} (h : Performs m c a n result jobs)
    (accepts : m.dispatcher.refuses = false) :
    n.interval = (a.intervalGiven? result).getD m.interval := by
  induction h with
  | scan attempt => exact attempt.sameSession.interval
  | tick attempt => exact attempt.sameSession.interval
  | started idle _ _ attempt =>
    rw [armTimer_of_session attempt.sameSession.session]
    exact attempt.sameSession.interval
  | closeRefused _ ih => exact ih
  | closed _ ih => exact ih
  | startRefused _ _ refuses => rw [accepts] at refuses; cases refuses
  | _ => rfl

/-- While the dispatcher takes jobs, it goes on to do so unless the monitor stops running. -/
theorem Performs.accepts_of_running {result : Except MonitorFault Answer}
    (h : Performs m c a n result jobs) (accepts : m.dispatcher.refuses = false)
    (hrunning : n.running = true) : n.dispatcher.refuses = false := by
  rcases h.dispatcher_eq with hd | ⟨rfl, hd⟩
  · rw [hd, Dispatcher.refuses_taking, accepts]
  · -- what closing leaves behind is not running
    cases h with
    | closeRefused stop =>
      cases stop with
      | stopRefused _ refuses => rw [accepts] at refuses; cases refuses
    | closed stop =>
      cases stop with
      | notRunning idle =>
        have hidle : m.running = true := hrunning
        rw [idle] at hidle
        cases hidle
      | stopped => cases hrunning

end Monitor

/-! ### Courses -/

/-- What is kept of the sessions along a course from `start` on, as long as the dispatcher takes jobs. -/
structure SessionsTracked (start : Monitor) (past : List Moment) (m : Monitor) : Prop where
  sinks : m.dispatcher.sinks = start.dispatcher.sinks
  accepts : m.running = true → m.dispatcher.refuses = false
  announced : ∀ index sink, start.dispatcher.sinks[index]? = some sink →
    ∃ ended, Job.announcementsTo index (past.flatMap Moment.jobs) = rounds ended m.running
  unset : unsetLoops past = m.timers
  told : ∀ session ∈ past.filterMap Moment.eventSet?, session < m.sessions
  counted : ∀ session ∈ m.session, session < m.sessions
  interval : m.interval = ((past.filterMap Moment.intervalGiven?).getLast?).getD start.interval

namespace SessionsTracked

variable {start m : Monitor} {past : List Moment}

theorem of_made (made : start.Made) : SessionsTracked start [] start := by
  obtain ⟨config, ledger, sinks, probe, -, rfl⟩ := made.eq_initial
  exact ⟨rfl, nofun, fun index sink _ => ⟨0, rfl⟩, rfl, nofun, nofun, rfl⟩

theorem probing (h : SessionsTracked start past m) (probe : Probe) :
    SessionsTracked start past (m.probing probe) :=
  ⟨h.sinks, h.accepts, h.announced, h.unset, h.told, h.counted, h.interval⟩

/-- **One operation more.** -/
theorem perform (h : SessionsTracked start past m) (accepts : m.dispatcher.refuses = false) (c : Circumstances)
    (a : Action) : SessionsTracked start (past ++ [⟨m, c, a⟩]) (m.perform c a).monitor := by
  have hperforms := Monitor.perform_performs m c a
  constructor
  · exact hperforms.sinks_eq.trans h.sinks
  · exact hperforms.accepts_of_running accepts
  · intro index sink hsink
    obtain ⟨ended, hannounced⟩ := h.announced index sink hsink
    rw [← h.sinks] at hsink
    rw [List.flatMap_append, Job.announcementsTo_append, hannounced, List.flatMap_singleton]
    show ∃ ended', _ ++ Job.announcementsTo index (m.jobs c a) = _
    rw [hperforms.announcements accepts hsink]
    exact rounds_append ended _ _
  · rw [hperforms.timers_eq, ← h.unset]
    refine unsetLoops_concat past ⟨m, c, a⟩ fun loop hloop => ?_
    obtain ⟨hsession, hnone⟩ := hperforms.session_of_loopStarted hloop
    refine ⟨fun htold => ?_, hnone⟩
    have := h.told _ htold
    omega
  · intro session hsession
    refine Nat.lt_of_lt_of_le ?_ hperforms.sessions_le
    rw [List.filterMap_append, List.mem_append] at hsession
    rcases hsession with hold | hnew
    · exact h.told session hold
    · obtain ⟨t, ht, hsome⟩ := List.mem_filterMap.mp hnew
      rw [List.mem_singleton.mp ht] at hsome
      exact h.counted session (Action.mem_of_eventSet hsome)
  · exact hperforms.session_lt h.counted
  · rw [hperforms.interval_eq accepts, h.interval, List.filterMap_append, List.getLast?_append]
    show _ = (([Moment.mk m c a].filterMap Moment.intervalGiven?).getLast?.or _).getD _
    cases hgiven : a.intervalGiven? (m.perform c a).result with
    | none =>
      have hnow : Moment.intervalGiven? ⟨m, c, a⟩ = none := hgiven
      simp [hnow]
    | some interval =>
      have hnow : Moment.intervalGiven? ⟨m, c, a⟩ = some interval := hgiven
      simp [hnow]

end SessionsTracked

namespace Monitor

/-! ### Starting and stopping -/

/-- An operation changes nothing: the monitor stays as it is, and no sink is handed anything. -/
structure ChangesNothing (m : Monitor) (c : Circumstances) (a : Action) : Prop where
  monitor : (m.perform c a).monitor = m
  jobs : m.jobs c a = []
  carriesOut : CarriesOut c.around [] (m.perform c a).events

/-- **Starting and stopping.**  What a start yields, and when a start or a stop changes nothing. -/
structure StartsAndStops (m : Monitor) : Prop where
  starts : ∀ c interval, (m.perform c (.start interval)).result = .ok (.changed true) ↔
    m.running = false ∧ ∀ seconds ∈ interval, 1 ≤ seconds
  rejects : ∀ c interval, (m.perform c (.start interval)).result = .error .intervalTooSmall ↔
    m.running = false ∧ ∃ seconds ∈ interval, seconds < 1
  repeats : m.running = true → ∀ c interval,
    (m.perform c (.start interval)).result = .ok (.changed false) ∧ m.ChangesNothing c (.start interval)
  rests : m.running = false → ∀ c,
    (m.perform c .stop).result = .ok (.changed false) ∧ m.ChangesNothing c .stop

variable {m : Monitor}

/-- What a start yields while the dispatcher takes jobs. -/
theorem result_start (accepts : m.dispatcher.refuses = false) (c : Circumstances)
    (interval : Option Int) :
    (m.perform c (.start interval)).result =
      if m.running then .ok (.changed false)
      else if interval.any (· < 1) then .error .intervalTooSmall
      else .ok (.changed true) := by
  have hperforms := perform_performs m c (.start interval)
  generalize (m.perform c (.start interval)).result = result at hperforms ⊢
  generalize (m.perform c (.start interval)).monitor = n at hperforms
  generalize m.jobs c (.start interval) = jobs at hperforms
  cases hperforms with
  | alreadyRunning running => rw [running]; rfl
  | tooShort idle short => rw [idle, short]; rfl
  | startRefused _ _ refuses => rw [accepts] at refuses; cases refuses
  | started idle long => rw [idle, long]; rfl

/-- An operation that only writes a record, whether or not the dispatcher defers its jobs, changes nothing. -/
theorem ChangesNothing.of_record {c : Circumstances} {a : Action} {r : LogRecord}
    {result : Except MonitorFault Answer} (h : m.perform c a = ⟨m, [.logged r], result⟩)
    (hdefer : (m.deferring []).perform c a = ⟨m.deferring [], [.logged r], result⟩) :
    m.ChangesNothing c a where
  monitor := by rw [h]
  jobs := by
    show ((m.deferring []).perform c a).monitor.dispatcher.queue = []
    rw [hdefer]
    rfl
  carriesOut := by
    rw [h]
    exact .record r .nil

/-- While the dispatcher takes jobs, starting and stopping do what they should. -/
theorem startsAndStops (accepts : m.dispatcher.refuses = false) : m.StartsAndStops where
  starts := fun c interval => by
    rw [result_start accepts]
    cases m.running <;> cases interval <;> simp
  rejects := fun c interval => by
    rw [result_start accepts]
    cases m.running <;> cases interval <;> simp
  repeats := fun running c interval => by
    have hstart : ∀ n : Monitor, n.running = true → n.perform c (.start interval) =
        ⟨n, [note .info "Monitoring is already active"], .ok (.changed false)⟩ := fun n hn =>
      congrArg (Outcome.map Answer.changed) (start_of_running hn c interval)
    exact ⟨by rw [hstart m running], .of_record (hstart m running) (hstart _ running)⟩
  rests := fun idle c => by
    have hstop : ∀ n : Monitor, n.running = false → n.perform c .stop =
        ⟨n, [note .info "Monitoring is not active"], .ok (.changed false)⟩ := fun n hn =>
      congrArg (Outcome.map Answer.changed) (stop_of_idle hn c)
    exact ⟨by rw [hstop m idle], .of_record (hstop m idle) (hstop _ idle)⟩

/-! ### What a course tells -/

/-- **What a course tells of its sessions.**  Each sink was told of sessions that were opened and ended one after
the other, and the last one is open if the monitor is running.  The timers are the loops that nobody has told to end:
that of the open session, at the present interval, and no other.  The interval is the one that a start was given
last, or the configured one. -/
structure SessionsTold (config : Config) (sinks : List Sink) (past : List Moment) (m : Monitor) : Prop where
  announced : ∀ index < sinks.length, ∃ ended,
    Job.announcementsTo index (past.flatMap Moment.jobs) = rounds ended m.running
  carriesOut : ∀ t ∈ past, CarriesOut t.circumstances.around t.jobs t.outcome.events
  loops : unsetLoops past = m.timers
  running : m.running = true → ∃ session, m.session = some session ∧ m.timers = [⟨session, m.interval⟩]
  idle : m.running = false → m.session = none ∧ m.timers = []
  interval : m.interval = ((past.filterMap Moment.intervalGiven?).getLast?).getD config.interval

/-- A course whose operations are all taken while the dispatcher takes jobs. -/
theorem sessionsTracked {start : Monitor} (made : start.Made) {turns : List Turn}
    (accepts : ∀ t ∈ start.moments turns, t.before.dispatcher.refuses = false) :
    SessionsTracked start (start.moments turns) (start.afterAll turns) := by
  refine moments_invariant (fun past m => (∀ t ∈ past, t.before.dispatcher.refuses = false) →
    SessionsTracked start past m) (fun _ => .of_made made) (fun past m probe ih h => (ih h).probing probe)
    (fun past m c a ih h => ?_) turns accepts
  have hpast := ih fun t ht => h t (List.mem_append_left _ ht)
  exact hpast.perform (h ⟨m, c, a⟩ (List.mem_append_right _ (List.mem_singleton_self _))) c a

theorem sessionKept_afterAll {start : Monitor} (made : start.Made) (turns : List Turn) :
    (start.afterAll turns).SessionKept := by
  obtain ⟨config, ledger, sinks, probe, -, rfl⟩ := made.eq_initial
  exact afterAll_invariant SessionKept (.of_idle rfl rfl rfl)
    (fun _ _ h => h.of_sameSession ⟨rfl, rfl, rfl, rfl, rfl⟩) (fun hperforms h => h.performs hperforms) turns

theorem interval_of_create {config : Config} {files : Folder} {env : Environment} {voice : Voice}
    {sinks : Option (List Sink)} {probe : Probe} {m : Monitor}
    (h : (create config files env voice sinks probe).2 = .ok m) : m.interval = config.interval := by
  obtain ⟨ledger, -, -, rfl⟩ := eq_initial_of_create h
  rfl

/-- **Sessions.**  Until a monitor is closed, starting and stopping do what they should; and whatever is asked of it,
closing it in the end included, tells of sessions that follow one another. -/
theorem sessions_told {config : Config} {files : Folder} {env : Environment} {voice : Voice}
    {sinks : Option (List Sink)} {probe : Probe} {start : Monitor}
    (made : (create config files env voice sinks probe).2 = .ok start) (turns : List Turn)
    (hopen : ∀ turn ∈ turns, turn.isClose = false) :
    (start.afterAll turns).StartsAndStops ∧
      ∀ ending, (ending = [] ∨ ∃ c, ending = [.operation c .close]) →
        SessionsTold config start.dispatcher.sinks (start.moments (turns ++ ending))
          (start.afterAll (turns ++ ending)) := by
  have hmade : start.Made := ⟨config, files, env, voice, sinks, probe, made⟩
  refine ⟨startsAndStops (refuses_afterAll hmade turns hopen), fun ending hending => ?_⟩
  have accepts : ∀ t ∈ start.moments (turns ++ ending), t.before.dispatcher.refuses = false := by
    intro t ht
    rw [moments_append, List.mem_append] at ht
    rcases ht with ht | ht
    · exact refuses_of_mem_moments hmade hopen ht
    · -- only the closing is left, and it comes while the dispatcher still takes jobs
      rcases hending with rfl | ⟨c, rfl⟩
      · cases ht
      · rw [List.mem_singleton.mp ht]
        exact refuses_afterAll hmade turns hopen
  have htracked := sessionsTracked hmade accepts
  have hkept := sessionKept_afterAll hmade (turns ++ ending)
  exact
    { announced := fun index hindex => htracked.announced index _ (List.getElem?_eq_getElem hindex)
      carriesOut := fun t ht => carriesOut_of_mem_moments hmade ht
      loops := htracked.unset
      running := fun hrun => hkept.running hrun (htracked.accepts hrun)
      idle := hkept.idle
      interval := by rw [htracked.interval, interval_of_create made] }

theorem sessions_told_plain :
    let turns : List Turn := [.operation quiet (.start (some 5)), .operation quiet .test]
    let ended := turns ++ [.operation quiet .close]
    (plain.afterAll turns).StartsAndStops ∧
      SessionsTold .default [.observer] (plain.moments ended) (plain.afterAll ended) ∧
      (∃ session, (plain.afterAll turns).timers = [⟨session, 5⟩]) ∧ (plain.afterAll ended).interval = 5 := by
  intro turns ended
  obtain ⟨hanswers, htold⟩ := sessions_told create_plain turns (by simp [turns, Turn.isClose])
  have hongoing := htold [] (.inl rfl)
  have hended := htold [.operation quiet .close] (.inr ⟨quiet, rfl⟩)
  have hstarted : (plain.perform quiet (.start (some 5))).result = .ok (.changed true) :=
    result_start rfl quiet (some 5)
  have hgiven : Moment.intervalGiven? ⟨plain, quiet, .start (some 5)⟩ = some 5 := by
    show Action.intervalGiven? (plain.perform quiet (.start (some 5))).result _ = _
    rw [hstarted]
    rfl
  have hlater : ∀ m, Moment.intervalGiven? ⟨m, quiet, .test⟩ = none ∧
      Moment.intervalGiven? ⟨m, quiet, .close⟩ = none := fun m => ⟨rfl, rfl⟩
  have hrunning : (plain.afterAll turns).running = true := by
    have hperforms := perform_performs plain quiet (.start (some 5))
    rw [hstarted] at hperforms
    exact ((perform_performs _ quiet .test).running_eq rfl).trans hperforms.running_of_started
  refine ⟨hanswers, hended, ?_, ?_⟩
  · rw [List.append_nil] at hongoing
    obtain ⟨session, -, htimers⟩ := hongoing.running hrunning
    refine ⟨session, ?_⟩
    rw [htimers, hongoing.interval]
    simp [turns, moments, hgiven, hlater]
  · rw [hended.interval]
    simp [turns, moments, hgiven, hlater]

end Monitor

end SourceWatch

import SourceWatch.Proofs.Monitor.Cycle

/-!
# What an operation does

Every operation of a monitor ends in one of a few ways.  Each of them is told by the state before: the state
after, the result, and the jobs that the sinks are handed.  A dispatcher that defers its jobs changes nothing
but when they are carried out.

Main definitions:

* `Monitor.jobs`: the jobs that an operation hands to the sinks;
* `Monitor.Attempt`: the ways in which an attempt to scan ends;
* `Monitor.Performs`: the ways in which an operation ends;
* `Monitor.HandsOut`: what an operation does when jobs are carried out at once, and when they are deferred.

Main statements:

* `Monitor.perform_performs`: every operation ends in one of these ways;
* `Monitor.perform_carriesOut`: the events of an operation are records and the jobs that it hands out;
* `Monitor.Performs.unique`: an operation ends in one way only.
-/

namespace SourceWatch

namespace Monitor

/-- The monitor whose dispatcher defers its jobs, with the given ones waiting. -/
def deferring (m : Monitor) (queue : List Job) : Monitor :=
  { m with dispatcher := m.dispatcher.deferring queue }

/-- The monitor after its dispatcher took jobs. -/
def handing (m : Monitor) (jobs : List Job) : Monitor :=
  { m with dispatcher := m.dispatcher.taking jobs }

/-- The jobs that an operation hands to the sinks: those that would wait if the dispatcher deferred
them. -/
def jobs (m : Monitor) (c : Circumstances) (a : Action) : List Job :=
  ((m.deferring []).perform c a).monitor.dispatcher.queue

/-! ### The ways in which an operation ends -/

/-- The ways in which an attempt to scan ends: another scan is in progress, the scan is completed, or it
breaks off. -/
inductive Attempt (m : Monitor) (c : Circumstances) :
    Monitor → Except MonitorFault Report → List Job → Prop
  | skipped (busy : c.busy = true) : Attempt m c m (.error .scanInProgress) []
  | completed (idle : c.busy = false) (whole : m.breakingPoint c = none) :
      Attempt m c (m.afterScan c) (.ok (m.reportOf c)) (m.novelJobs c)
  | brokenOff (idle : c.busy = false) (f : Finding) (breaks : m.breakingPoint c = some f) :
      Attempt m c (m.brokenOff f) (.error .dispatcherClosed) []

/-- The monitor after it opened a session and announced it. -/
def announced (m : Monitor) (interval : Option Int) : Monitor :=
  (m.openSession interval).handing (m.dispatcher.jobsFor (.announcement startAnnouncement))

theorem refuses_announced (m : Monitor) (interval : Option Int) :
    (m.announced interval).dispatcher.refuses = m.dispatcher.refuses :=
  Dispatcher.refuses_taking _ _

theorem sinks_announced (m : Monitor) (interval : Option Int) :
    (m.announced interval).dispatcher.sinks = m.dispatcher.sinks :=
  Dispatcher.sinks_taking _ _

/-- **The ways in which an operation ends.** -/
inductive Performs (m : Monitor) (c : Circumstances) :
    Action → Monitor → Except MonitorFault Answer → List Job → Prop
  | scan {n result jobs} (attempt : Attempt m c n result jobs) :
      Performs m c .scan n (result.map .report) jobs
  | tick {n result jobs} (attempt : Attempt m c n result jobs) : Performs m c .tick n (.ok .done) jobs
  | alreadyRunning {interval} (running : m.running = true) :
      Performs m c (.start interval) m (.ok (.changed false)) []
  | tooShort {interval : Option Int} (idle : m.running = false)
      (short : interval.any (· < 1) = true) :
      Performs m c (.start interval) m (.error .intervalTooSmall) []
  | startRefused {interval : Option Int} (idle : m.running = false)
      (long : interval.any (· < 1) = false) (refuses : m.dispatcher.refuses = true) :
      Performs m c (.start interval) (m.openSession interval) (.error .dispatcherClosed) []
  | started {interval : Option Int} {n result jobs} (idle : m.running = false)
      (long : interval.any (· < 1) = false) (accepts : m.dispatcher.refuses = false)
      (attempt : Attempt (m.announced interval) c n result jobs) :
      Performs m c (.start interval) n.armTimer (.ok (.changed true))
        (m.dispatcher.jobsFor (.announcement startAnnouncement) ++ jobs)
  | notRunning (idle : m.running = false) : Performs m c .stop m (.ok (.changed false)) []
  | stopRefused (running : m.running = true) (refuses : m.dispatcher.refuses = true) :
      Performs m c .stop m.endSession (.error .dispatcherClosed) []
  | stopped (running : m.running = true) (accepts : m.dispatcher.refuses = false) :
      Performs m c .stop
        (m.endSession.handing (m.dispatcher.jobsFor (.announcement stopAnnouncement)))
        (.ok (.changed true)) (m.dispatcher.jobsFor (.announcement stopAnnouncement))
  | testRefused (refuses : m.dispatcher.refuses = true) :
      Performs m c .test { m with ledger := m.ledger.record (m.testFinding c) }
        (.error .dispatcherClosed) []
  | tested (accepts : m.dispatcher.refuses = false) :
      Performs m c .test
        ({ m with ledger := m.ledger.record (m.testFinding c) }.handing
          (m.dispatcher.jobsFor (.finding (m.testFinding c))))
        (.ok (.finding (m.testFinding c))) (m.dispatcher.jobsFor (.finding (m.testFinding c)))
  | closeRefused {n fault jobs} (stop : Performs m c .stop n (.error fault) jobs) :
      Performs m c .close n (.error fault) jobs
  | closed {n answer jobs} (stop : Performs m c .stop n (.ok answer) jobs) :
      Performs m c .close { n with dispatcher := n.dispatcher.shutdown } (.ok .done) jobs

/-! ### Deferring -/

/-- What an operation leaves behind and yields, and which jobs it hands out: they are carried out at once,
or else they wait, and that is the only difference. -/
structure HandsOut {α : Type} (op : Monitor → Outcome α) (m : Monitor) (around : Surroundings)
    (next : Monitor) (result : Except MonitorFault α) (jobs : List Job) : Prop where
  leaves : (op m).monitor = next
  yields : (op m).result = result
  carriesOut : m.dispatcher.deferred = false → CarriesOut around jobs (op m).events
  defers : ∀ queue, ∃ events,
    op (m.deferring queue) = ⟨next.deferring (queue ++ jobs), events, result⟩

variable {m : Monitor} {c : Circumstances}

/-- An operation that writes records only hands out nothing. -/
theorem HandsOut.nothing {α : Type} {op : Monitor → Outcome α} {around : Surroundings} {n : Monitor}
    {result : Except MonitorFault α} {events : List Event} (h : op m = ⟨n, events, result⟩)
    (hcarry : CarriesOut around [] events)
    (hdefer : ∀ queue, ∃ more, op (m.deferring queue) = ⟨n.deferring queue, more, result⟩) :
    HandsOut op m around n result [] :=
  { leaves := by rw [h]
    yields := by rw [h]
    carriesOut := fun _ => by
      rw [h]
      exact hcarry
    defers := fun queue => by
      rw [List.append_nil]
      exact hdefer queue }

theorem handing_deferring (m : Monitor) (queue jobs taken : List Job) :
    (m.deferring queue).handing jobs = (m.handing taken).deferring (queue ++ jobs) :=
  congrArg (fun d => { m with dispatcher := d })
    (Dispatcher.deferring_taking m.dispatcher queue jobs taken)

/-- An operation that hands out the jobs that it makes, after it wrote some records. -/
theorem HandsOut.handing {α : Type} {op : Monitor → Outcome α} {around : Surroundings} {n : Monitor}
    {result : Except MonitorFault α} {jobs : List Job} {first : List Event}
    (h : op m = ⟨n.handing jobs,
      first ++ Job.performAll around (if m.dispatcher.deferred then [] else jobs), result⟩)
    (hcarry : CarriesOut around [] first)
    (hdefer : ∀ queue, ∃ more,
      op (m.deferring queue) = ⟨(n.deferring queue).handing jobs, more, result⟩) :
    HandsOut op m around (n.handing jobs) result jobs :=
  { leaves := by rw [h]
    yields := by rw [h]
    carriesOut := fun hd => by
      rw [h, hd]
      exact hcarry.append (.performAll around jobs)
    defers := fun queue => by
      rw [← handing_deferring n queue]
      exact hdefer queue }

/-- What is handed out does not change when something else is done afterwards to the monitor and the result. -/
theorem HandsOut.afterwards {α β : Type} {op : Monitor → Outcome α} {around : Surroundings}
    {n : Monitor} {result : Except MonitorFault α} {jobs : List Job}
    (h : HandsOut op m around n result jobs) (next : Monitor → Monitor) {told : Except MonitorFault β}
    (hnext : ∀ queue, next (n.deferring queue) = (next n).deferring queue)
    {op' : Monitor → Outcome β}
    (hop : ∀ m n events, op m = ⟨n, events, result⟩ → op' m = ⟨next n, events, told⟩) :
    HandsOut op' m around (next n) told jobs :=
  have hm : op' m = ⟨next n, (op m).events, told⟩ :=
    hop m n _ (by rw [← h.leaves, ← h.yields])
  { leaves := by rw [hm]
    yields := by rw [hm]
    carriesOut := fun hd => by
      rw [hm]
      exact h.carriesOut hd
    defers := fun queue => by
      obtain ⟨events, hdefer⟩ := h.defers queue
      rw [← hnext]
      exact ⟨events, hop _ _ _ hdefer⟩ }

theorem HandsOut.map {α β : Type} {op : Monitor → Outcome α} {around : Surroundings} {n : Monitor}
    {result : Except MonitorFault α} {jobs : List Job} (h : HandsOut op m around n result jobs)
    (f : α → β) : HandsOut (fun m => (op m).map f) m around n (result.map f) jobs :=
  h.afterwards id (fun _ => rfl) fun _ _ _ hop => congrArg (Outcome.map f) hop

theorem afterScan_deferring (m : Monitor) (c : Circumstances) (queue : List Job) :
    (m.deferring queue).afterScan c = (m.afterScan c).deferring (queue ++ m.novelJobs c) :=
  congrArg (fun d => { m.afterScan c with dispatcher := d })
    (Dispatcher.deferring_taking m.dispatcher queue (m.novelJobs c) (m.novelJobs c))

/-- Arming a timer changes the timers only. -/
theorem armTimer_eq (m : Monitor) : m.armTimer = { m with timers := m.armTimer.timers } := by
  unfold armTimer
  split <;> rfl

theorem armTimer_of_session {session : ℕ} (h : m.session = some session) :
    m.armTimer = { m with timers := m.timers ++ [⟨session, m.interval⟩] } := by
  simp only [armTimer, h]

theorem armTimer_deferring (m : Monitor) (queue : List Job) :
    (m.deferring queue).armTimer = m.armTimer.deferring queue := by
  cases hs : m.session with
  | none => simp only [armTimer, deferring, hs]
  | some session => simp only [armTimer, deferring, hs]

theorem scan_attempt (m : Monitor) (c : Circumstances) :
    ∃ n result jobs, Attempt m c n result jobs ∧
      HandsOut (fun m => m.scan c) m c.around n result jobs := by
  cases hb : c.busy with
  | true =>
    -- for all monitors at once: the same is needed of the one that defers its jobs
    have hscan : ∀ m : Monitor, m.scan c = m.refuse .scanInProgress := fun m => by
      rw [scan, hb]
      rfl
    exact ⟨m, _, [], .skipped hb, .nothing (hscan m) .nil fun queue => ⟨[], hscan _⟩⟩
  | false =>
    have hscan : ∀ m : Monitor, m.scan c = m.runCycle c := fun m => by
      rw [scan, hb]
      rfl
    cases hp : m.breakingPoint c with
    | none =>
      obtain ⟨events, hrun, hcarry⟩ := runCycle_of_completes hp
      refine ⟨m.afterScan c, _, m.novelJobs c, .completed hb hp, ?_⟩
      exact
        { leaves := by rw [hscan, hrun]
          yields := by rw [hscan, hrun]
          carriesOut := fun hd => by
            rw [hscan, hrun]
            exact hcarry hd
          defers := fun queue => by
            obtain ⟨more, hrun', -⟩ := runCycle_of_completes (m := m.deferring queue) (c := c) hp
            rw [hscan, hrun', afterScan_deferring]
            exact ⟨more, rfl⟩ }
    | some f =>
      obtain ⟨events, hrun, hcarry⟩ := runCycle_of_breaks hp
      refine ⟨m.brokenOff f, _, [], .brokenOff hb f hp, ?_⟩
      refine .nothing ((hscan m).trans hrun) hcarry fun queue => ?_
      obtain ⟨more, hrun', -⟩ := runCycle_of_breaks (m := m.deferring queue) (c := c) hp
      exact ⟨more, (hscan _).trans hrun'⟩

/-- **Scanning is an attempt to scan.** -/
theorem scan_attempts (m : Monitor) (c : Circumstances) :
    Attempt m c (m.scan c).monitor (m.scan c).result (m.jobs c .scan) := by
  obtain ⟨n, result, jobs, hattempt, h⟩ := scan_attempt m c
  have hjobs : m.jobs c .scan = jobs := by
    obtain ⟨events, hdefer⟩ := h.defers []
    show ((m.deferring []).scan c).monitor.dispatcher.queue = jobs
    rw [hdefer]
    rfl
  rwa [h.leaves, h.yields, hjobs]

theorem monitor_guardedScan (m : Monitor) (c : Circumstances) :
    (m.guardedScan c).1 = (m.scan c).monitor := by
  simp only [guardedScan]
  split <;> rfl

/-- A guarded scan adds a record at most. -/
theorem carriesOut_guardedScan {jobs : List Job} (h : CarriesOut c.around jobs (m.scan c).events) :
    CarriesOut c.around jobs (m.guardedScan c).2 := by
  simp only [guardedScan]
  split
  · exact h
  · exact h.append_record _
  · exact h.append_record _

theorem announce_of_refuses (h : m.dispatcher.refuses = true) (around : Surroundings)
    (message : String) : m.announce around message = m.refuse .dispatcherClosed := by
  rw [announce, Dispatcher.submit_of_refuses h]

theorem announce_of_accepts (h : m.dispatcher.refuses = false) (around : Surroundings)
    (message : String) :
    m.announce around message =
      ⟨m.handing (m.dispatcher.jobsFor (.announcement message)),
        Job.performAll around
          (if m.dispatcher.deferred then [] else m.dispatcher.jobsFor (.announcement message)),
        .ok ()⟩ := by
  rw [announce, Dispatcher.submit_of_accepts h]
  rfl

/-! ### Operations one by one -/

theorem tick_performs (m : Monitor) (c : Circumstances) :
    ∃ n result jobs, Performs m c .tick n result jobs ∧
      HandsOut (fun m => m.perform c .tick) m c.around n result jobs := by
  obtain ⟨n, result, jobs, hattempt, h⟩ := scan_attempt m c
  refine ⟨n, _, jobs, .tick hattempt, ?_⟩
  exact
    { leaves := (monitor_guardedScan m c).trans h.leaves
      yields := rfl
      carriesOut := fun hd => carriesOut_guardedScan (h.carriesOut hd)
      defers := fun queue => by
        obtain ⟨events, hscan⟩ := h.defers queue
        have hnext : ((m.deferring queue).guardedScan c).1 = n.deferring (queue ++ jobs) := by
          rw [monitor_guardedScan, hscan]
        rw [← hnext]
        exact ⟨_, rfl⟩ }

theorem scan_performs (m : Monitor) (c : Circumstances) :
    ∃ n result jobs, Performs m c .scan n result jobs ∧
      HandsOut (fun m => m.perform c .scan) m c.around n result jobs := by
  obtain ⟨n, result, jobs, hattempt, h⟩ := scan_attempt m c
  exact ⟨n, _, jobs, .scan hattempt, h.map Answer.report⟩

theorem start_of_running (running : m.running = true) (c : Circumstances) (interval : Option Int) :
    m.start c interval = ⟨m, [note .info "Monitoring is already active"], .ok false⟩ := by
  rw [start, if_pos running]

theorem start_of_short {interval : Option Int} (idle : m.running = false)
    (short : interval.any (· < 1) = true) (c : Circumstances) :
    m.start c interval = ⟨m, [], .error .intervalTooSmall⟩ := by
  rw [start, idle, short]
  rfl

theorem start_of_refuses {interval : Option Int} (idle : m.running = false)
    (long : interval.any (· < 1) = false) (h : m.dispatcher.refuses = true) (c : Circumstances) :
    m.start c interval =
      ⟨m.openSession interval,
        [note .info s!"Starting continuous security monitoring (every {(m.openSession interval).interval}s)"],
        .error .dispatcherClosed⟩ := by
  have hannounce := announce_of_refuses (m := m.openSession interval) h c.around startAnnouncement
  simp only [start, idle, long, hannounce, Bool.false_eq_true, if_false]
  rfl

/-- A start that gets past its announcement scans, whatever becomes of the scan, and arms a timer. -/
theorem start_of_accepts {interval : Option Int} (idle : m.running = false)
    (long : interval.any (· < 1) = false) (h : m.dispatcher.refuses = false) (c : Circumstances) :
    m.start c interval =
      ⟨((m.announced interval).guardedScan c).1.armTimer,
        note .info s!"Starting continuous security monitoring (every {(m.openSession interval).interval}s)" ::
          Job.performAll c.around (if m.dispatcher.deferred then []
            else m.dispatcher.jobsFor (.announcement startAnnouncement)) ++
          ((m.announced interval).guardedScan c).2, .ok true⟩ := by
  have hannounce := announce_of_accepts (m := m.openSession interval) h c.around startAnnouncement
  simp only [start, idle, long, hannounce, Bool.false_eq_true, if_false]
  rfl

theorem announced_deferring (m : Monitor) (interval : Option Int) (queue : List Job) :
    (m.deferring queue).announced interval = (m.announced interval).deferring
      (queue ++ m.dispatcher.jobsFor (.announcement startAnnouncement)) :=
  handing_deferring (m.openSession interval) queue _ _

/-- A start hands out its announcement and then what its scan hands out. -/
theorem HandsOut.start {interval : Option Int} (idle : m.running = false)
    (long : interval.any (· < 1) = false) (accepts : m.dispatcher.refuses = false) {n : Monitor}
    {result : Except MonitorFault Report} {jobs : List Job}
    (h : HandsOut (fun m => m.scan c) (m.announced interval) c.around n result jobs) :
    HandsOut (fun m => m.start c interval) m c.around n.armTimer (.ok true)
      (m.dispatcher.jobsFor (.announcement startAnnouncement) ++ jobs) :=
  have hstart := start_of_accepts idle long accepts c
  { leaves := by rw [hstart, monitor_guardedScan, ← h.leaves]
    yields := by rw [hstart]
    carriesOut := fun hd => by
      have hscan := carriesOut_guardedScan (h.carriesOut ((Dispatcher.deferred_taking _ _).trans hd))
      rw [hstart, hd]
      exact .record _ ((CarriesOut.performAll c.around _).append hscan)
    defers := fun queue => by
      obtain ⟨events, hscan⟩ := h.defers
        (queue ++ m.dispatcher.jobsFor (.announcement startAnnouncement))
      have hnext : (((m.deferring queue).announced interval).guardedScan c).1.armTimer =
          n.armTimer.deferring
            (queue ++ (m.dispatcher.jobsFor (.announcement startAnnouncement) ++ jobs)) := by
        rw [announced_deferring, monitor_guardedScan, hscan, armTimer_deferring, List.append_assoc]
      rw [← hnext]
      exact ⟨_, start_of_accepts (m := m.deferring queue) idle long accepts c⟩ }

theorem start_performs (m : Monitor) (c : Circumstances) (interval : Option Int) :
    ∃ n result jobs, Performs m c (.start interval) n result jobs ∧
      HandsOut (fun m => m.perform c (.start interval)) m c.around n result jobs := by
  cases hrun : m.running with
  | true =>
    have h : HandsOut (fun m => m.start c interval) m c.around m (.ok false) [] :=
      .nothing (start_of_running hrun c interval) (.record _ .nil) fun queue =>
        ⟨_, start_of_running (m := m.deferring queue) hrun c interval⟩
    exact ⟨m, _, [], .alreadyRunning hrun, h.map Answer.changed⟩
  | false =>
    cases hshort : interval.any (· < 1) with
    | true =>
      have h : HandsOut (fun m => m.start c interval) m c.around m (.error .intervalTooSmall) [] :=
        .nothing (start_of_short hrun hshort c) .nil fun queue =>
          ⟨_, start_of_short (m := m.deferring queue) hrun hshort c⟩
      exact ⟨m, _, [], .tooShort hrun hshort, h.map Answer.changed⟩
    | false =>
      cases hclosed : m.dispatcher.refuses with
      | true =>
        have h : HandsOut (fun m => m.start c interval) m c.around (m.openSession interval)
            (.error .dispatcherClosed) [] :=
          .nothing (start_of_refuses hrun hshort hclosed c) (.record _ .nil) fun queue =>
            ⟨_, start_of_refuses (m := m.deferring queue) hrun hshort hclosed c⟩
        exact ⟨_, _, [], .startRefused hrun hshort hclosed, h.map Answer.changed⟩
      | false =>
        obtain ⟨n, result, jobs, hattempt, h⟩ := scan_attempt (m.announced interval) c
        exact ⟨_, _, _, .started hrun hshort hclosed hattempt,
          (h.start hrun hshort hclosed).map Answer.changed⟩

theorem stop_of_idle (idle : m.running = false) (c : Circumstances) :
    m.stop c = ⟨m, [note .info "Monitoring is not active"], .ok false⟩ := by
  rw [stop, idle]
  rfl

theorem stop_of_refuses (running : m.running = true) (h : m.dispatcher.refuses = true)
    (c : Circumstances) :
    m.stop c =
      ⟨m.endSession, [note .info "Security monitoring stopped"], .error .dispatcherClosed⟩ := by
  have hannounce := announce_of_refuses (m := m.endSession) h c.around stopAnnouncement
  simp only [stop, running, hannounce, Bool.not_true, Bool.false_eq_true, if_false]
  rfl

theorem stop_of_accepts (running : m.running = true) (h : m.dispatcher.refuses = false)
    (c : Circumstances) :
    m.stop c =
      ⟨m.endSession.handing (m.dispatcher.jobsFor (.announcement stopAnnouncement)),
        [note .info "Security monitoring stopped"] ++ Job.performAll c.around
          (if m.dispatcher.deferred then []
            else m.dispatcher.jobsFor (.announcement stopAnnouncement)), .ok true⟩ := by
  have hannounce := announce_of_accepts (m := m.endSession) h c.around stopAnnouncement
  simp only [stop, running, hannounce, Bool.not_true, Bool.false_eq_true, if_false]
  rfl

theorem stop_performs (m : Monitor) (c : Circumstances) :
    ∃ n result jobs, Performs m c .stop n result jobs ∧
      HandsOut (fun m => m.perform c .stop) m c.around n result jobs := by
  cases hrun : m.running with
  | false =>
    have h : HandsOut (fun m => m.stop c) m c.around m (.ok false) [] :=
      .nothing (stop_of_idle hrun c) (.record _ .nil) fun queue =>
        ⟨_, stop_of_idle (m := m.deferring queue) hrun c⟩
    exact ⟨m, _, [], .notRunning hrun, h.map Answer.changed⟩
  | true =>
    cases hclosed : m.dispatcher.refuses with
    | true =>
      have h : HandsOut (fun m => m.stop c) m c.around m.endSession (.error .dispatcherClosed) [] :=
        .nothing (stop_of_refuses hrun hclosed c) (.record _ .nil) fun queue =>
          ⟨_, stop_of_refuses (m := m.deferring queue) hrun hclosed c⟩
      exact ⟨_, _, [], .stopRefused hrun hclosed, h.map Answer.changed⟩
    | false =>
      have h : HandsOut (fun m => m.stop c) m c.around _ (.ok true) _ :=
        .handing (stop_of_accepts hrun hclosed c) (.record _ .nil) fun queue =>
          ⟨_, stop_of_accepts (m := m.deferring queue) hrun hclosed c⟩
      exact ⟨_, _, _, .stopped hrun hclosed, h.map Answer.changed⟩

theorem sendTest_of_refuses (h : m.dispatcher.refuses = true) (c : Circumstances) :
    m.sendTest c =
      ⟨{ m with ledger := m.ledger.record (m.testFinding c) }, [], .error .dispatcherClosed⟩ := by
  simp only [sendTest, Dispatcher.submit_of_refuses h]
  rfl

theorem sendTest_of_accepts (h : m.dispatcher.refuses = false) (c : Circumstances) :
    m.sendTest c =
      ⟨{ m with ledger := m.ledger.record (m.testFinding c) }.handing
          (m.dispatcher.jobsFor (.finding (m.testFinding c))),
        [] ++ Job.performAll c.around (if m.dispatcher.deferred then []
          else m.dispatcher.jobsFor (.finding (m.testFinding c))),
        .ok (m.testFinding c)⟩ := by
  simp only [sendTest, Dispatcher.submit_of_accepts h]
  rfl

theorem test_performs (m : Monitor) (c : Circumstances) :
    ∃ n result jobs, Performs m c .test n result jobs ∧
      HandsOut (fun m => m.perform c .test) m c.around n result jobs := by
  cases hclosed : m.dispatcher.refuses with
  | true =>
    have h : HandsOut (fun m => m.sendTest c) m c.around _ (.error .dispatcherClosed) [] :=
      .nothing (sendTest_of_refuses hclosed c) .nil fun queue =>
        ⟨_, sendTest_of_refuses (m := m.deferring queue) hclosed c⟩
    exact ⟨_, _, [], .testRefused hclosed, h.map Answer.finding⟩
  | false =>
    have h : HandsOut (fun m => m.sendTest c) m c.around _ (.ok (m.testFinding c)) _ :=
      .handing (sendTest_of_accepts hclosed c) .nil fun queue =>
        ⟨_, sendTest_of_accepts (m := m.deferring queue) hclosed c⟩
    exact ⟨_, _, _, .tested hclosed, h.map Answer.finding⟩

/-- Closing stops first, and goes no further if that fails. -/
theorem perform_close (m : Monitor) (c : Circumstances) :
    m.perform c .close =
      match m.perform c .stop with
      | ⟨n, events, .error fault⟩ => ⟨n, events, .error fault⟩
      | ⟨n, events, .ok _⟩ => ⟨{ n with dispatcher := n.dispatcher.shutdown }, events, .ok .done⟩ := by
  simp only [perform, close, Outcome.map]
  cases (m.stop c).result <;> rfl

theorem close_performs (m : Monitor) (c : Circumstances) :
    ∃ n result jobs, Performs m c .close n result jobs ∧
      HandsOut (fun m => m.perform c .close) m c.around n result jobs := by
  obtain ⟨n, result, jobs, hstop, h⟩ := stop_performs m c
  cases result with
  | error fault =>
    refine ⟨n, _, jobs, .closeRefused hstop, h.afterwards id (fun _ => rfl) ?_⟩
    intro m n events hop
    rw [perform_close, hop]
    rfl
  | ok answer =>
    refine ⟨_, _, jobs, .closed hstop,
      h.afterwards (fun n => { n with dispatcher := n.dispatcher.shutdown }) (fun _ => rfl) ?_⟩
    intro m n events hop
    rw [perform_close, hop]

/-! ### All operations -/

theorem performs (m : Monitor) (c : Circumstances) (a : Action) :
    ∃ n result jobs, Performs m c a n result jobs ∧
      HandsOut (fun m => m.perform c a) m c.around n result jobs := by
  cases a with
  | scan => exact scan_performs m c
  | start interval => exact start_performs m c interval
  | stop => exact stop_performs m c
  | tick => exact tick_performs m c
  | test => exact test_performs m c
  | close => exact close_performs m c

/-- The jobs that an operation hands out are the ones that wait after it, if it defers them. -/
theorem HandsOut.jobs_eq {a : Action} {n : Monitor} {result : Except MonitorFault Answer}
    {jobs : List Job} (h : HandsOut (fun m => m.perform c a) m c.around n result jobs) :
    m.jobs c a = jobs := by
  obtain ⟨events, hdefer⟩ := h.defers []
  rw [Monitor.jobs, hdefer]
  rfl

/-- **Every operation ends in one of a few ways.** -/
theorem perform_performs (m : Monitor) (c : Circumstances) (a : Action) :
    Performs m c a (m.perform c a).monitor (m.perform c a).result (m.jobs c a) := by
  obtain ⟨n, result, jobs, hperforms, h⟩ := performs m c a
  rwa [h.jobs_eq, h.leaves, h.yields]

/-- **The events of an operation are records and the jobs that it hands out.** -/
theorem perform_carriesOut (hd : m.dispatcher.deferred = false) (c : Circumstances) (a : Action) :
    CarriesOut c.around (m.jobs c a) (m.perform c a).events := by
  obtain ⟨n, result, jobs, _, h⟩ := performs m c a
  rw [h.jobs_eq]
  exact h.carriesOut hd

/-! ### In one way only -/

variable {a : Action} {n n' : Monitor} {jobs jobs' : List Job}

/-- An attempt to scan ends in one way only. -/
theorem Attempt.unique {result result' : Except MonitorFault Report} (h : Attempt m c n result jobs)
    (h' : Attempt m c n' result' jobs') : n = n' ∧ result = result' ∧ jobs = jobs' := by
  cases h with
  | skipped busy =>
    cases h' with
    | skipped => exact ⟨rfl, rfl, rfl⟩
    | completed idle => rw [busy] at idle; cases idle
    | brokenOff idle => rw [busy] at idle; cases idle
  | completed idle whole =>
    cases h' with
    | skipped busy => rw [idle] at busy; cases busy
    | completed => exact ⟨rfl, rfl, rfl⟩
    | brokenOff _ f breaks => rw [whole] at breaks; cases breaks
  | brokenOff idle f breaks =>
    cases h' with
    | skipped busy => rw [idle] at busy; cases busy
    | completed _ whole => rw [breaks] at whole; cases whole
    | brokenOff _ g breaks' =>
      rw [breaks] at breaks'
      cases breaks'
      exact ⟨rfl, rfl, rfl⟩

/-- **An operation ends in one way only.** -/
theorem Performs.unique {result result' : Except MonitorFault Answer} (h : Performs m c a n result jobs)
    (h' : Performs m c a n' result' jobs') : n = n' ∧ result = result' ∧ jobs = jobs' := by
  induction h generalizing n' result' jobs' with
  | scan attempt =>
    cases h' with
    | scan attempt' =>
      obtain ⟨rfl, rfl, rfl⟩ := attempt.unique attempt'
      exact ⟨rfl, rfl, rfl⟩
  | tick attempt =>
    cases h' with
    | tick attempt' =>
      obtain ⟨rfl, -, rfl⟩ := attempt.unique attempt'
      exact ⟨rfl, rfl, rfl⟩
  | started idle long accepts attempt =>
    cases h' with
    | started _ _ _ attempt' =>
      obtain ⟨rfl, -, rfl⟩ := attempt.unique attempt'
      exact ⟨rfl, rfl, rfl⟩
    | _ => simp_all
  | closeRefused _ ih =>
    cases h' with
    | closeRefused stop =>
      obtain ⟨rfl, h, rfl⟩ := ih stop
      cases h
      exact ⟨rfl, rfl, rfl⟩
    | closed stop => cases (ih stop).2.1
  | closed _ ih =>
    cases h' with
    | closeRefused stop => cases (ih stop).2.1
    | closed stop =>
      obtain ⟨rfl, -, rfl⟩ := ih stop
      exact ⟨rfl, rfl, rfl⟩
  -- what is left is told apart by whether the monitor runs and what its dispatcher takes
  | _ => cases h' <;> simp_all

end Monitor

end SourceWatch

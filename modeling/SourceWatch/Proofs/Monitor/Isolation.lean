import SourceWatch.Proofs.Dispatcher.Effects
import SourceWatch.Proofs.Monitor.Course

/-!
# Failures are kept apart

Sinks that always fail, and a probe that does, make no difference to what a monitor does otherwise: each operation
yields the same, leaves the same status and the same ledger behind, and hands the other sinks the same jobs, in the
same order.  This holds all along a course, also after the monitor is closed.

Main definitions:

* `Monitor.withFailures`: the monitor when sinks fail, with another probe;
* `Probe.TellsLike`: two probes tell the same;
* `AgreesBut`, `Agrees`: two operations agree in all that concerns the sinks that do not fail, or in everything.

Main statements:

* `Monitor.Performs.withFailures`: what one operation does when sinks fail;
* `Monitor.SameBut.moments`: what a course does when sinks fail;
* `Monitor.isolates_failures`: sinks that fail disturb no other, and a probe that fails is as good as none.
-/

namespace SourceWatch

/-- Two probes tell the same; one that fails tells as much as none. -/
def Probe.TellsLike (p q : Probe) : Prop :=
  ∀ stamp, p.findings stamp = q.findings stamp

/-- **Two operations agree but for the sinks that fail.**  The second one does what the jobs of the first one for
the other sinks do. -/
structure AgreesBut (broken : ℕ → Option String) (t t' : Moment) : Prop where
  circumstances : t'.circumstances = t.circumstances
  action : t'.action = t.action
  result : t'.outcome.result = t.outcome.result
  status : t'.outcome.monitor.status = t.outcome.monitor.status
  ledger : t'.outcome.monitor.ledger = t.outcome.monitor.ledger
  jobs : Job.forOthers broken t'.jobs = Job.forOthers broken t.jobs
  deliveries : Event.deliveries t'.outcome.events =
    (Event.deliveries t.outcome.events).filter fun delivery => (broken delivery.1).isNone
  effects : Event.effects t'.outcome.events =
    (Job.forOthers broken t.jobs).flatMap (Job.effects t.circumstances.around)
  carriesOut : CarriesOut t.circumstances.around t.jobs t.outcome.events
  carriesOut' : CarriesOut t.circumstances.around t'.jobs t'.outcome.events

/-- **Two operations agree.**  They differ in the records that they write, if they differ at all. -/
structure Agrees (t t' : Moment) : Prop where
  circumstances : t'.circumstances = t.circumstances
  action : t'.action = t.action
  result : t'.outcome.result = t.outcome.result
  status : t'.outcome.monitor.status = t.outcome.monitor.status
  ledger : t'.outcome.monitor.ledger = t.outcome.monitor.ledger
  jobs : t'.jobs = t.jobs
  effects : Event.effects t'.outcome.events = Event.effects t.outcome.events
  carriesOut : CarriesOut t.circumstances.around t.jobs t.outcome.events
  carriesOut' : CarriesOut t.circumstances.around t.jobs t'.outcome.events

/-- If no sink fails, then there is nothing in which two operations do not agree. -/
theorem AgreesBut.agrees {t t' : Moment} (h : AgreesBut (fun _ => none) t t') : Agrees t t' := by
  have hall : ∀ jobs, Job.forOthers (fun _ => none) jobs = jobs := List.filter_true
  have hjobs : t'.jobs = t.jobs := by
    rw [← hall t'.jobs, h.jobs, hall]
  exact
    { circumstances := h.circumstances
      action := h.action
      result := h.result
      status := h.status
      ledger := h.ledger
      jobs := hjobs
      effects := by rw [h.effects, hall, h.carriesOut.effects_eq]
      carriesOut := h.carriesOut
      carriesOut' := by
        rw [← hjobs]
        exact h.carriesOut' }

namespace Monitor

/-- The monitor when sinks fail, with another probe. -/
def withFailures (m : Monitor) (broken : ℕ → Option String) (probe : Probe) : Monitor :=
  { m with dispatcher := m.dispatcher.failingAt broken, probe := probe }

variable {m n : Monitor} {c : Circumstances} {a : Action} {jobs : List Job} {broken : ℕ → Option String}
  {probe : Probe}

/-! ### One scan -/

theorem handing_withFailures (m : Monitor) (broken : ℕ → Option String) (probe : Probe) (jobs : List Job) :
    (m.withFailures broken probe).handing (jobs.map (Job.failingAt broken)) =
      (m.handing jobs).withFailures broken probe :=
  congrArg (fun d => { m with dispatcher := d, probe := probe })
    (Dispatcher.taking_failingAt broken m.dispatcher jobs)

theorem rawFindings_withFailures (hprobe : probe.TellsLike m.probe) (c : Circumstances) :
    (m.withFailures broken probe).rawFindings c = m.rawFindings c := by
  rw [rawFindings_eq_seen, rawFindings_eq_seen, seen, seen]
  exact congrArg _ (hprobe _)

theorem breakingPoint_withFailures (hprobe : probe.TellsLike m.probe) (c : Circumstances) :
    (m.withFailures broken probe).breakingPoint c = m.breakingPoint c := by
  rw [breakingPoint, breakingPoint, rawFindings_withFailures hprobe]
  show (if (m.dispatcher.failingAt broken).refuses then _ else _) = _
  rw [Dispatcher.refuses_failingAt]
  rfl

theorem novel_withFailures (hprobe : probe.TellsLike m.probe) (c : Circumstances) :
    (m.withFailures broken probe).novel c = m.novel c := by
  rw [novel, rawFindings_withFailures hprobe]
  rfl

theorem novelJobs_withFailures (hprobe : probe.TellsLike m.probe) (c : Circumstances) :
    (m.withFailures broken probe).novelJobs c = (m.novelJobs c).map (Job.failingAt broken) := by
  rw [novelJobs, novel_withFailures hprobe, novelJobs, List.map_flatMap]
  exact congrArg (fun jobsFor => (m.novel c).flatMap jobsFor)
    (funext fun f => Dispatcher.jobsFor_failingAt broken m.dispatcher (.finding f))

theorem afterScan_withFailures (hprobe : probe.TellsLike m.probe) (c : Circumstances) :
    (m.withFailures broken probe).afterScan c = (m.afterScan c).withFailures broken probe := by
  rw [afterScan, novelJobs_withFailures hprobe, rawFindings_withFailures hprobe]
  exact congrArg (fun d => { m.afterScan c with dispatcher := d, probe := probe })
    (Dispatcher.taking_failingAt broken m.dispatcher (m.novelJobs c))

theorem reportOf_withFailures (broken : ℕ → Option String) (hprobe : probe.TellsLike m.probe)
    (c : Circumstances) :
    (m.withFailures broken probe).reportOf c = m.reportOf c := by
  rw [reportOf, rawFindings_withFailures hprobe, novel_withFailures hprobe]
  rfl

/-- **An attempt to scan when sinks fail.** -/
theorem Attempt.withFailures {result : Except MonitorFault Report} (h : Attempt m c n result jobs)
    (broken : ℕ → Option String) (hprobe : probe.TellsLike m.probe) :
    Attempt (m.withFailures broken probe) c (n.withFailures broken probe) result
      (jobs.map (Job.failingAt broken)) := by
  cases h with
  | skipped busy => exact .skipped busy
  | completed idle whole =>
    rw [← afterScan_withFailures hprobe, ← reportOf_withFailures broken hprobe,
      ← novelJobs_withFailures hprobe]
    exact .completed idle ((breakingPoint_withFailures hprobe c).trans whole)
  | brokenOff idle f breaks =>
    exact .brokenOff idle f ((breakingPoint_withFailures hprobe c).trans breaks)

/-! ### One operation -/

theorem announced_withFailures (m : Monitor) (broken : ℕ → Option String) (probe : Probe)
    (interval : Option Int) :
    (m.withFailures broken probe).announced interval = (m.announced interval).withFailures broken probe := by
  rw [announced, announced, ← handing_withFailures, ← Dispatcher.jobsFor_failingAt]
  rfl

theorem armTimer_withFailures (m : Monitor) (broken : ℕ → Option String) (probe : Probe) :
    (m.withFailures broken probe).armTimer = m.armTimer.withFailures broken probe := by
  cases hs : m.session <;> simp only [armTimer, withFailures, hs]

/-- **An operation when sinks fail.**  It leaves the same behind and yields the same, and the jobs for the sinks that
fail are all that changes of what it hands out. -/
theorem Performs.withFailures {result : Except MonitorFault Answer} (h : Performs m c a n result jobs)
    (broken : ℕ → Option String) (hprobe : probe.TellsLike m.probe) :
    Performs (m.withFailures broken probe) c a (n.withFailures broken probe) result
      (jobs.map (Job.failingAt broken)) := by
  have hrefuses : (m.withFailures broken probe).dispatcher.refuses = m.dispatcher.refuses :=
    Dispatcher.refuses_failingAt broken m.dispatcher
  have hjobs : ∀ payload, (m.dispatcher.jobsFor payload).map (Job.failingAt broken) =
      (m.withFailures broken probe).dispatcher.jobsFor payload := fun payload =>
    (Dispatcher.jobsFor_failingAt broken m.dispatcher payload).symm
  induction h with
  | scan attempt => exact .scan (attempt.withFailures broken hprobe)
  | tick attempt => exact .tick (attempt.withFailures broken hprobe)
  | alreadyRunning running => exact .alreadyRunning running
  | tooShort idle short => exact .tooShort idle short
  | startRefused idle long refuses => exact .startRefused idle long (hrefuses.trans refuses)
  | @started interval n _ jobs idle long accepts attempt =>
    have hattempt := attempt.withFailures broken hprobe
    rw [← announced_withFailures] at hattempt
    rw [← armTimer_withFailures, List.map_append, hjobs]
    exact .started idle long (hrefuses.trans accepts) hattempt
  | notRunning idle => exact .notRunning idle
  | stopRefused running refuses => exact .stopRefused running (hrefuses.trans refuses)
  | stopped running accepts =>
    rw [← handing_withFailures, hjobs]
    exact .stopped running (hrefuses.trans accepts)
  | testRefused refuses => exact .testRefused (hrefuses.trans refuses)
  | tested accepts =>
    rw [← handing_withFailures, hjobs]
    exact .tested (hrefuses.trans accepts)
  | closeRefused _ ih => exact .closeRefused ih
  | closed _ ih => exact .closed ih

theorem Attempt.probe_eq {result : Except MonitorFault Report} (h : Attempt m c n result jobs) :
    n.probe = m.probe := by
  cases h <;> rfl

/-- No operation changes the probe. -/
theorem Performs.probe_eq {result : Except MonitorFault Answer} (h : Performs m c a n result jobs) :
    n.probe = m.probe := by
  induction h with
  | scan attempt => exact attempt.probe_eq
  | tick attempt => exact attempt.probe_eq
  | started _ _ _ attempt =>
    exact (congrArg Monitor.probe (armTimer_eq _)).trans attempt.probe_eq
  | closeRefused _ ih => exact ih
  | closed _ ih => exact ih
  | _ => rfl

/-! ### Courses -/

/-- Two monitors are the same but for sinks that fail, and for probes that tell the same. -/
structure SameBut (broken : ℕ → Option String) (m n : Monitor) : Prop where
  immediate : m.dispatcher.deferred = false
  eq : n = m.withFailures broken n.probe
  probe : n.probe.TellsLike m.probe

/-- **One operation of two monitors.** -/
theorem SameBut.perform (h : SameBut broken m n) (c : Circumstances) (a : Action) :
    AgreesBut broken ⟨m, c, a⟩ ⟨n, c, a⟩ ∧ SameBut broken (m.perform c a).monitor (n.perform c a).monitor := by
  obtain ⟨himmediate, heq, hprobe⟩ := h
  have hm := perform_performs m c a
  have hn := hm.withFailures broken hprobe
  rw [← heq] at hn
  obtain ⟨hmonitor, hresult, hjobs⟩ := (perform_performs n c a).unique hn
  have himmediate' : n.dispatcher.deferred = false := by
    rw [heq]
    exact himmediate
  have hcarry := perform_carriesOut himmediate c a
  have hcarry' := perform_carriesOut himmediate' c a
  have heffects : Event.effects (n.perform c a).events =
      (Job.forOthers broken (m.jobs c a)).flatMap (Job.effects c.around) := by
    rw [hcarry'.effects_eq, hjobs, Job.flatMap_effects_failingAt]
  constructor
  · exact
      { circumstances := rfl
        action := rfl
        result := hresult
        status := by
          show (n.perform c a).monitor.status = _
          rw [hmonitor]
          rfl
        ledger := by
          show (n.perform c a).monitor.ledger = _
          rw [hmonitor]
          rfl
        jobs := by
          show Job.forOthers broken (n.jobs c a) = _
          rw [hjobs, Job.forOthers_failingAt]
          rfl
        deliveries := by
          show Event.deliveries (n.perform c a).events =
            (Event.deliveries (m.perform c a).events).filter fun delivery => (broken delivery.1).isNone
          rw [← Event.deliveries_effects, heffects, ← Event.deliveries_effects (m.perform c a).events,
            hcarry.effects_eq]
          exact (Job.filter_deliveries (fun place => (broken place).isNone) _).symm
        effects := heffects
        carriesOut := hcarry
        carriesOut' := hcarry' }
  · have hkept : (n.perform c a).monitor.probe = n.probe := (perform_performs n c a).probe_eq
    exact
      { immediate := hm.deferred_eq.trans himmediate
        eq := by
          rw [hkept]
          exact hmonitor
        probe := fun stamp => by
          rw [hkept, hm.probe_eq]
          exact hprobe stamp }

theorem SameBut.probing (h : SameBut broken m n) (probe : Probe) :
    SameBut broken (m.probing probe) (n.probing probe) where
  immediate := h.immediate
  eq := congrArg (fun n : Monitor => n.probing probe) h.eq
  probe := fun _ => rfl

/-- **A course when sinks fail.** -/
theorem SameBut.moments (h : SameBut broken m n) (turns : List Turn) :
    List.Forall₂ (AgreesBut broken) (m.moments turns) (n.moments turns) :=
  moments_forall₂ h (fun _ _ probe h => h.probing probe) (fun _ _ c a h => h.perform c a) turns

/-! ### Monitors as they are made -/

section

variable {config : Config} {files : Folder} {env : Environment} {voice : Voice} {sinks : List Sink}

theorem probe_of_create (made : (create config files env voice (some sinks) probe).2 = .ok m) :
    m.probe = probe := by
  obtain ⟨ledger, -, -, rfl⟩ := eq_initial_of_create made
  rfl

/-- Whether a monitor is made depends neither on its sinks nor on its probe. -/
theorem create_withFailures (made : (create config files env voice (some sinks) probe).2 = .ok m)
    (broken : ℕ → Option String) (other : Probe) :
    (create config files env voice (some (sinks.mapIdx (Sink.failingAt broken))) other).2 =
      .ok (m.withFailures broken other) := by
  unfold create at made ⊢
  split at made
  · cases made
  · cases made
  · cases made
    rfl

theorem SameBut.of_create {other : Probe}
    (made : (create config files env voice (some sinks) probe).2 = .ok m)
    (made' : (create config files env voice (some (sinks.mapIdx (Sink.failingAt broken))) other).2 = .ok n)
    (hprobe : other.TellsLike probe) : SameBut broken m n := by
  have hn : n = m.withFailures broken other :=
    Except.ok.inj (made'.symm.trans (create_withFailures made broken other))
  subst hn
  exact
    { immediate := Made.deferred_eq_false ⟨config, files, env, voice, some sinks, probe, made⟩
      eq := rfl
      probe := by
        rw [probe_of_create made]
        exact hprobe }

end

/-- The sink at one place fails. -/
def onlyAt (index : ℕ) (reason : String) : ℕ → Option String :=
  fun place => if place = index then some reason else none

theorem mapIdx_onlyAt (sinks : List Sink) (index : ℕ) (reason : String) :
    sinks.mapIdx (Sink.failingAt (onlyAt index reason)) = sinks.set index (.failing reason) := by
  refine List.mapIdx_eq_iff.mpr fun place => ?_
  rw [List.getElem?_set]
  by_cases hplace : place = index
  · subst hplace
    by_cases hlt : place < sinks.length
    · simp [hlt, Sink.failingAt, onlyAt]
    · simp [hlt]
  · rw [if_neg (Ne.symm hplace)]
    cases sinks[place]? with
    | none => rfl
    | some sink => simp [Sink.failingAt, onlyAt, hplace]

/-- **Failures are kept apart.**  A sink that always fails changes nothing in whatever is asked of a monitor but
what that sink would do itself; and a probe that always fails changes nothing but the records. -/
theorem isolates_failures {config : Config} {files : Folder} {env : Environment} {voice : Voice}
    {sinks : List Sink} {probe : Probe} {start : Monitor}
    (made : (create config files env voice (some sinks) probe).2 = .ok start) (turns : List Turn) :
    (∀ index reason, ∃ failing,
      (create config files env voice (some (sinks.set index (.failing reason))) probe).2 = .ok failing ∧
        List.Forall₂ (AgreesBut (onlyAt index reason)) (start.moments turns) (failing.moments turns)) ∧
    ∀ reason, ∃ failing silent absent,
      (create config files env voice (some sinks) (.failing reason)).2 = .ok failing ∧
        (create config files env voice (some sinks) .silent).2 = .ok silent ∧
        (create config files env voice (some sinks) .absent).2 = .ok absent ∧
        List.Forall₂ Agrees (silent.moments turns) (failing.moments turns) ∧
        List.Forall₂ Agrees (absent.moments turns) (failing.moments turns) := by
  constructor
  · intro index reason
    have hfailing := create_withFailures made (onlyAt index reason) probe
    have hsame := SameBut.of_create made hfailing fun _ => rfl
    rw [mapIdx_onlyAt] at hfailing
    exact ⟨_, hfailing, hsame.moments turns⟩
  · intro reason
    have hnone : sinks.mapIdx (Sink.failingAt fun _ => none) = sinks :=
      List.mapIdx_eq_iff.mpr fun index => Option.map_id'.symm
    have hmade : ∀ other, (create config files env voice (some sinks) other).2 =
        .ok (start.withFailures (fun _ => none) other) := by
      intro other
      have hother := create_withFailures made (fun _ => none) other
      rwa [hnone] at hother
    have hagrees : ∀ {m}, m.probe = .silent ∨ m.probe = .absent →
        (create config files env voice (some sinks) m.probe).2 = .ok m →
        List.Forall₂ Agrees (m.moments turns)
          ((start.withFailures (fun _ => none) (.failing reason)).moments turns) := by
      intro m hquiet hm
      have hfailing := hmade (.failing reason)
      rw [← hnone] at hfailing
      have hsame := SameBut.of_create hm hfailing fun stamp => by
        rcases hquiet with hquiet | hquiet <;> rw [hquiet] <;> rfl
      exact (hsame.moments turns).imp fun _ _ => AgreesBut.agrees
    exact ⟨_, _, _, hmade _, hmade _, hmade _, hagrees (.inl rfl) (hmade .silent),
      hagrees (.inr rfl) (hmade .absent)⟩

theorem isolates_failures_plain :
    let sinks : List Sink := [.observer, .plain, .log]
    let turns : List Turn :=
      [.operation quiet .test, .operation quiet (.start none), .operation quiet .close, .operation quiet .test]
    (∃ failing,
      (create .default [] [] .silent (some [.failing "no connection", .plain, .log]) .silent).2 = .ok failing ∧
      List.Forall₂ (AgreesBut (onlyAt 0 "no connection")) ((unconfigured sinks .silent).moments turns)
        (failing.moments turns)) ∧
    (∃ failing absent, (create .default [] [] .silent (some sinks) (.failing "unplugged")).2 = .ok failing ∧
      (create .default [] [] .silent (some sinks) .absent).2 = .ok absent ∧
      List.Forall₂ Agrees (absent.moments turns) (failing.moments turns)) ∧
    ⟨1, .plain, .finding ((unconfigured sinks .silent).testFinding quiet)⟩ ∈
      Job.forOthers (onlyAt 0 "no connection") ((unconfigured sinks .silent).jobs quiet .test) := by
  intro sinks turns
  obtain ⟨hsink, hprobe⟩ := isolates_failures (create_unconfigured sinks .silent) turns
  obtain ⟨failing, -, absent, hfailing, -, habsent, -, hagrees⟩ := hprobe "unplugged"
  exact ⟨hsink 0 "no connection", ⟨failing, absent, hfailing, habsent, hagrees⟩, List.mem_of_getElem? (i := 0) rfl⟩

end Monitor

end SourceWatch

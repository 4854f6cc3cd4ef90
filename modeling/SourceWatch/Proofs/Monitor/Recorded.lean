import SourceWatch.Proofs.Monitor.Attempts
import SourceWatch.Proofs.Monitor.Session

/-!
# What is recorded was handed out

A finding is recorded first and handed to the sinks then.  While the dispatcher takes jobs the two go
together, so the ledger holds nothing that a sink was not given.  Closing a monitor parts them: a scan or a test
that comes after it records a finding and fails.

Main definitions:

* `Given`: a finding was handed to every sink in the course of a run;
* `InTime`: no scan and no test came after the monitor was closed;
* `Monitor.PassesOver`: a scan passes over a finding as a repeat of another one.

Main statements:

* `Run.recorded_given`: in time, what is recorded was given to every sink;
* `Run.recorded_not_given_after_close`: a test that comes too late is recorded all the same.
-/

namespace SourceWatch

/-- A finding was handed to each of the sinks in the course of a run. -/
def Given (past : List Moment) (sinks : List Sink) (f : Finding) : Prop :=
  ∀ index sink, sinks[index]? = some sink → ∃ t ∈ past, ⟨index, sink, .finding f⟩ ∈ t.jobs

/-- No scan and no test was asked of a monitor whose dispatcher refuses. -/
def InTime (past : List Moment) : Prop :=
  ∀ t ∈ past, t.action = .scan ∨ t.action = .test → t.before.dispatcher.refuses = false

namespace Monitor

variable {m n s : Monitor} {c : Circumstances} {a : Action} {jobs : List Job} {f g : Finding}

/-- The next scan passes over `f` as a repeat of `g`, which is in the ledger when `f` comes up. -/
def PassesOver (m : Monitor) (c : Circumstances) (f g : Finding) : Prop :=
  ∃ earlier later, m.seen c = earlier ++ f :: later ∧
    (m.ledger.acceptAll earlier).1.isRepeat f = true ∧
    g ∈ (m.ledger.acceptAll earlier).1.entries ∧ g.key = f.key

/-- What a scan passes over repeats what was in the ledger or is reported by the scan. -/
theorem PassesOver.mem (h : m.PassesOver c f g) : g ∈ m.ledger.entries ∨ g ∈ m.novel c := by
  obtain ⟨earlier, later, hseen, -, hg, -⟩ := h
  rcases List.mem_append.mp (Ledger.entries_acceptAll_subset _ _ hg) with hold | hnew
  · exact .inl hold
  · right
    rw [novel, rawFindings_eq_seen, hseen, Ledger.acceptAll_append]
    exact List.mem_append_left _ hnew

/-- Each sink is handed what a scan reports. -/
theorem mem_novelJobs (h : f ∈ m.novel c) {index : ℕ} {sink : Sink}
    (hsink : m.dispatcher.sinks[index]? = some sink) : ⟨index, sink, .finding f⟩ ∈ m.novelJobs c :=
  List.mem_flatMap.mpr ⟨f, h, Dispatcher.mem_jobsFor.mpr ⟨hsink, rfl⟩⟩

/-- A finding is handed to every sink of a monitor. -/
def HandsOver (m : Monitor) (jobs : List Job) (f : Finding) : Prop :=
  ∀ index sink, m.dispatcher.sinks[index]? = some sink → ⟨index, sink, .finding f⟩ ∈ jobs

/-- While the dispatcher takes jobs, an attempt to scan hands over what it records. -/
theorem Attempt.recorded {result : Except MonitorFault Report} (h : Attempt m c n result jobs)
    (accepts : m.dispatcher.refuses = false) (hf : f ∈ n.ledger.entries) :
    f ∈ m.ledger.entries ∨ m.HandsOver jobs f := by
  cases h with
  | skipped => exact .inl hf
  | completed =>
    rcases List.mem_append.mp (Ledger.entries_acceptAll_subset _ _ hf) with hold | hnew
    · exact .inl hold
    · exact .inr fun _ _ hsink => mem_novelJobs hnew hsink
  | brokenOff _ g breaks =>
    rw [breakingPoint, accepts] at breaks
    cases breaks

/-- **Recording and handing over.**  While the dispatcher takes jobs, an operation hands over what it
records. -/
theorem Performs.recorded {result : Except MonitorFault Answer} (h : Performs m c a n result jobs)
    (accepts : a = .scan ∨ a = .test ∨ a = .tick → m.dispatcher.refuses = false)
    (hf : f ∈ n.ledger.entries) : f ∈ m.ledger.entries ∨ m.HandsOver jobs f := by
  cases h with
  | scan attempt => exact attempt.recorded (accepts (.inl rfl)) hf
  | tick attempt => exact attempt.recorded (accepts (.inr (.inr rfl))) hf
  | started idle long haccepts attempt =>
    rw [(sameBooks_armTimer _).ledger] at hf
    refine (attempt.recorded ((refuses_announced _ _).trans haccepts) hf).imp_right ?_
    intro hgiven index sink hsink
    rw [← sinks_announced] at hsink
    exact List.mem_append_right _ (hgiven index sink hsink)
  | testRefused refuses =>
    rw [accepts (.inr (.inl rfl))] at refuses
    cases refuses
  | tested =>
    rcases List.mem_append.mp (Ledger.entries_record_subset _ _ hf) with hold | hnew
    · exact .inl hold
    · rw [List.mem_singleton.mp hnew]
      exact .inr fun _ _ hsink => Dispatcher.mem_jobsFor.mpr ⟨hsink, rfl⟩
  | closeRefused stop =>
    cases stop
    exact .inl hf
  | closed stop => cases stop <;> exact .inl hf
  | _ => exact .inl hf

/-- While the dispatcher takes jobs, a scan or a test that fails records nothing. -/
theorem Performs.ledger_eq_of_error {result : Except MonitorFault Answer}
    (h : Performs m c a n result jobs) (ha : a = .scan ∨ a = .test)
    (accepts : m.dispatcher.refuses = false) {fault : MonitorFault} (hr : result = .error fault) :
    n.ledger = m.ledger := by
  cases h with
  | scan attempt =>
    cases attempt with
    | skipped => rfl
    | completed => cases hr
    | brokenOff _ g breaks =>
      rw [breakingPoint, accepts] at breaks
      cases breaks
  | testRefused refuses =>
    rw [accepts] at refuses
    cases refuses
  | tested => cases hr
  | _ => simp at ha

end Monitor

namespace Run

variable {start m : Monitor} {past : List Moment}

/-- A timer ticks only while the dispatcher takes jobs. -/
theorem accepts_of_tick (made : start.Made) (run : Run start past m) (enabled : m.Enables .tick) :
    m.dispatcher.refuses = false := by
  cases h : m.dispatcher.refuses with
  | false => rfl
  | true => exact absurd ((run.sessionKept made).refusing h) (enabled rfl)

/-- In time, what the ledger holds was handed to every sink. -/
theorem given_of_mem (made : start.Made) (run : Run start past m) (inTime : InTime past) :
    ∀ f ∈ m.ledger.entries, Given past start.dispatcher.sinks f := by
  induction run with
  | here =>
    obtain ⟨config, ledger, sinks, probe, hnil, rfl⟩ := made.eq_initial
    intro f hf
    rw [Monitor.initial, hnil] at hf
    cases hf
  | probe _ p ih => exact ih inTime
  | @step past m run c a enabled ih =>
    intro f hf
    have haccepts : a = .scan ∨ a = .test ∨ a = .tick → m.dispatcher.refuses = false := by
      have hnow := inTime ⟨m, c, a⟩ (List.mem_append_right _ (List.mem_singleton_self _))
      rintro (h | h | rfl)
      · exact hnow (.inl h)
      · exact hnow (.inr h)
      · exact run.accepts_of_tick made enabled
    rcases (Monitor.perform_performs m c a).recorded haccepts hf with hold | hnew
    · intro index sink hsink
      obtain ⟨t, ht, hjob⟩ :=
        ih (fun t ht => inTime t (List.mem_append_left _ ht)) f hold index sink hsink
      exact ⟨t, List.mem_append_left _ ht, hjob⟩
    · intro index sink hsink
      rw [← run.sinks_eq] at hsink
      exact ⟨_, List.mem_append_right _ (List.mem_singleton_self _), hnew index sink hsink⟩

/-- In time, the dispatcher takes jobs whenever there is an attempt to scan. -/
theorem accepts_of_scanner (made : start.Made) (run : Run start past m) {a : Action}
    (enabled : m.Enables a) (inTime : a = .scan → m.dispatcher.refuses = false) {s : Monitor}
    (hs : m.scanner a = some s) : s.dispatcher.refuses = false := by
  rcases Monitor.scanner_eq_some hs with ⟨rfl | rfl, rfl⟩ | ⟨interval, rfl, -, -, haccepts, rfl⟩
  · exact inTime rfl
  · exact run.accepts_of_tick made enabled
  · exact (Monitor.refuses_announced m interval).trans haccepts

/-- In time, what a scan passes over repeats a finding that was handed to every sink. -/
theorem given_of_passesOver (made : start.Made) (run : Run start past m) (inTime : InTime past)
    {t : Moment} (ht : t ∈ past) (idle : t.circumstances.busy = false) {s : Monitor}
    (hs : t.before.scanner t.action = some s) {f g : Finding} (h : s.PassesOver t.circumstances f g) :
    Given past start.dispatcher.sinks g := by
  obtain ⟨earlier, later, rfl, hrun, henabled⟩ := run.exists_of_mem ht
  rcases h.mem with hold | hnew
  · -- the entry is an old one, so it was handed out before
    rw [(Monitor.sameBooks_scanner hs).ledger] at hold
    have hearlier : InTime earlier := fun t ht => inTime t (List.mem_append_left _ ht)
    intro index sink hsink
    obtain ⟨t', ht', hjob⟩ := hrun.given_of_mem made hearlier g hold index sink hsink
    exact ⟨t', List.mem_append_left _ ht', hjob⟩
  · -- the scan itself hands it out
    have haccepts := hrun.accepts_of_scanner made henabled (fun h => inTime t ht (.inl h)) hs
    have hjobs := ((Monitor.perform_performs t.before t.circumstances t.action).attempts hs).2
    rw [((Monitor.scan_attempts s t.circumstances).of_accepts haccepts idle).2.2] at hjobs
    intro index sink hsink
    refine ⟨t, ht, ?_⟩
    rw [Moment.jobs, hjobs]
    refine List.mem_append_right _ (Monitor.mem_novelJobs hnew ?_)
    rw [Monitor.sinks_scanner hs, hrun.sinks_eq]
    exact hsink

/-- **Recorded means given.**  If no scan and no test comes after the monitor is closed, then whatever is
recorded was handed to every sink; whatever is passed over repeats a finding that was; and a scan or a test that
fails records nothing. -/
theorem recorded_given (made : start.Made) (run : Run start past m) (inTime : InTime past) :
    (∀ f ∈ m.ledger.entries, Given past start.dispatcher.sinks f) ∧
      (∀ t ∈ past, t.circumstances.busy = false → ∀ s, t.before.scanner t.action = some s →
        ∀ f g, s.PassesOver t.circumstances f g → Given past start.dispatcher.sinks g) ∧
      (∀ t ∈ past, t.action = .scan ∨ t.action = .test → ∀ fault, t.outcome.result = .error fault →
        t.outcome.monitor.ledger = t.before.ledger) ∧
      ∀ t ∈ past, CarriesOut t.circumstances.around t.jobs t.outcome.events := by
  refine ⟨run.given_of_mem made inTime, fun t ht idle s hs f g h =>
    run.given_of_passesOver made inTime ht idle hs h, fun t ht ha fault hfault => ?_, fun t ht => ?_⟩
  · exact (Monitor.perform_performs _ _ _).ledger_eq_of_error ha (inTime t ht ha) hfault
  · obtain ⟨earlier, later, -, hrun, -⟩ := run.exists_of_mem ht
    exact Monitor.perform_carriesOut (hrun.deferred_eq_false made) _ _

theorem recorded_given_plain :
    InTime [⟨.plain, Monitor.quiet, .test⟩] ∧
      Given [⟨.plain, Monitor.quiet, .test⟩] [.observer] (Monitor.plain.testFinding Monitor.quiet) := by
  have hrun := Run.step (@Run.here Monitor.plain) Monitor.quiet .test nofun
  have htime : InTime [⟨.plain, Monitor.quiet, .test⟩] := by
    intro t ht _
    rw [List.mem_singleton.mp ht]
    rfl
  exact ⟨htime, (recorded_given Monitor.made_plain hrun htime).1 _ (List.mem_singleton_self _)⟩

/-- **Closing parts recording from handing out.**  A test of a closed monitor fails, and its finding is recorded
and handed to no sink. -/
theorem recorded_not_given_after_close :
    let closed := (Monitor.plain.perform Monitor.quiet .close).monitor
    let tested := closed.perform Monitor.quiet .test
    let past : List Moment := [⟨.plain, Monitor.quiet, .close⟩, ⟨closed, Monitor.quiet, .test⟩]
    Run .plain past tested.monitor ∧ tested.result = .error .dispatcherClosed ∧
      tested.monitor.ledger ≠ closed.ledger ∧
      ∃ f ∈ tested.monitor.ledger.entries, ¬ Given past Monitor.plain.dispatcher.sinks f := by
  intro closed tested past
  have hrun : Run .plain past tested.monitor :=
    .step (.step .here Monitor.quiet .close nofun) Monitor.quiet .test nofun
  refine ⟨hrun, rfl, ?_, ?_⟩
  · intro h
    exact List.cons_ne_nil _ _ (congrArg Ledger.entries h)
  · refine ⟨closed.testFinding Monitor.quiet, List.mem_singleton_self _, fun hgiven => ?_⟩
    have hnone : ∀ t ∈ past, t.jobs = [] := by
      intro t ht
      rcases List.mem_cons.mp ht with rfl | ht
      · rfl
      · rw [List.mem_singleton.mp ht]
        rfl
    obtain ⟨t, ht, hjob⟩ := hgiven 0 .observer rfl
    rw [hnone t ht] at hjob
    cases hjob

end Run

end SourceWatch

import SourceWatch.Proofs.Monitor.Lock
import SourceWatch.Proofs.Monitor.Openings

/-!
# Counting scans

A monitor shares its lock with scans that others ask for.  Such a scan takes the lock at some time, does what a
scan does, one thing at a time, and gives the lock back; any number of operations may come in between.  Whatever
the order, the count of scans is the number of scans that were begun, and they bear the numbers from one on.

Main definitions:

* `Shared`, `Deed`: a monitor with its lock, and what may happen to it;
* `History`: what happened so far;
* `Occurrence.begun?`, `Occurrence.completed?`: whether a scan was begun or completed, and when;
* `Shared.Skips`: an operation passes over the scan that it attempts;
* `Accounted`: the account of the scans is right.

Main statements:

* `Shared.deeds_of_scan`: the deeds of another scan make up a scan;
* `Shared.adds`: what every deed adds to the account;
* `History.accounted`: the account is right at any time.
-/

namespace SourceWatch

/-- A monitor and the lock on scanning. -/
structure Shared where
  monitor : Monitor
  lock : Lock

/-- What may happen to a monitor that shares its lock. -/
inductive Deed where
  /-- An operation is carried out. -/
  | perform (c : Circumstances) (a : Action)
  /-- The probe comes to tell something else. -/
  | probe (p : Probe)
  /-- Another scan takes the lock. -/
  | taken
  /-- The other scan begins. -/
  | begun (now : Instant)
  /-- The other scan takes a finding in. -/
  | found (around : Surroundings) (f : Finding)
  /-- The other scan is completed. -/
  | completed (now : Instant)
  /-- The other scan gives the lock back. -/
  | released

namespace Shared

/-- Whether a deed can be done: only who holds the lock can scan.  How the other scan goes about it while it
holds the lock is left open. -/
def Enables (s : Shared) : Deed → Prop
  | .perform _ a => s.monitor.Enables a
  | .probe _ => True
  | .taken => s.lock = .free
  | .begun _ | .found .. | .completed _ | .released => s.lock = .other

/-- The other scan takes a finding in. -/
def takeIn (s : Shared) (around : Surroundings) (f : Finding) : Intake :=
  ((Intake.start s.monitor.ledger s.monitor.dispatcher).takeAll around [.found f]).1

/-- The monitor and its lock after a deed. -/
def after (s : Shared) : Deed → Shared
  | .perform c a =>
    let (lock, o) := s.monitor.performUnder s.lock c a
    ⟨o.monitor, lock⟩
  | .probe p => ⟨s.monitor.probing p, s.lock⟩
  | .taken => ⟨s.monitor, .other⟩
  | .begun _ => ⟨{ s.monitor with cycles := s.monitor.cycles + 1 }, s.lock⟩
  | .found around f =>
    let taken := s.takeIn around f
    ⟨{ s.monitor with ledger := taken.ledger, dispatcher := taken.dispatcher }, s.lock⟩
  | .completed now => ⟨{ s.monitor with lastScan := some now }, s.lock⟩
  | .released => ⟨s.monitor, s.lock.release⟩

/-- The events of a deed.  Of the records that the other scan writes, only the one that opens it is told. -/
def events (s : Shared) : Deed → List Event
  | .perform c a => (s.monitor.performUnder s.lock c a).2.events
  | .begun now => [Monitor.scanOpened (s.monitor.cycles + 1) now]
  | .found around f => (s.takeIn around f).events
  | .probe _ | .taken | .completed _ | .released => []

end Shared

/-- Something that happened, with the state in which it did. -/
structure Occurrence where
  before : Shared
  deed : Deed

namespace Occurrence

/-- The time at which a scan was begun, if one was: an attempt to scan begins one if it takes the lock. -/
def begun? (o : Occurrence) : Option Instant :=
  match o.deed with
  | .perform c a =>
    (o.before.monitor.scanner a).bind fun _ => o.before.lock.take.map fun _ => c.now
  | .begun now => some now
  | _ => none

/-- The time at which a scan was completed, if one was. -/
def completed? (o : Occurrence) : Option Instant :=
  match o.deed with
  | .perform c a =>
    (o.before.monitor.scanner a).bind fun s =>
      (s.scanUnder o.before.lock c).2.result.toOption.map Report.finishedAt
  | .completed now => some now
  | _ => none

end Occurrence

/-- **Histories.**  What happened to a monitor from `start` on, oldest first, and what came of it. -/
inductive History (start : Monitor) : List Occurrence → Shared → Prop
  | here : History start [] ⟨start, .free⟩
  | step {past s} (history : History start past s) (d : Deed) (enabled : s.Enables d) :
      History start (past ++ [⟨s, d⟩]) (s.after d)

/-- An operation passes over the scan that it attempts: the books stay as they are, the sinks are handed its
announcement only, and the failure is told to who asked for a scan. -/
structure Shared.Skips (s : Shared) (c : Circumstances) (a : Action) : Prop where
  cycles : (s.after (.perform c a)).monitor.cycles = s.monitor.cycles
  ledger : (s.after (.perform c a)).monitor.ledger = s.monitor.ledger
  lastScan : (s.after (.perform c a)).monitor.lastScan = s.monitor.lastScan
  carriesOut : CarriesOut c.around (s.monitor.opening a) (s.events (.perform c a))
  result : (s.monitor.performUnder s.lock c a).2.result = a.answerTo (.error .scanInProgress)

/-- The records that open scans, numbered from one on. -/
def numberedOpenings (times : List Instant) : List Event :=
  (times.zipIdx 1).map fun (now, number) => Monitor.scanOpened number now

/-- **The account of the scans.** -/
structure Accounted (past : List Occurrence) (s : Shared) : Prop where
  cycles : s.monitor.cycles = (past.filterMap Occurrence.begun?).length
  numbered : past.flatMap (fun o => Event.openings (o.before.events o.deed)) =
    numberedOpenings (past.filterMap Occurrence.begun?)
  lastScan : s.monitor.lastScan = (past.filterMap Occurrence.completed?).getLast?
  lock : s.lock = .free ∨ s.lock = .other
  released : ∀ o ∈ past, ∀ c a, o.deed = .perform c a → (o.before.after o.deed).lock = o.before.lock
  skipped : ∀ o ∈ past, ∀ c a, o.deed = .perform c a → (o.before.monitor.scanner a).isSome →
    o.before.lock = .other → o.before.Skips c a

/-! ### The other scan -/

/-- The monitor after findings were offered to the ledger, and handed out where it took them. -/
def Monitor.takingIn (m : Monitor) (fs : List Finding) : Monitor :=
  { m with
    ledger := (m.ledger.acceptAll fs).1
    dispatcher := m.dispatcher.taking
      ((m.ledger.acceptAll fs).2.flatMap fun f => m.dispatcher.jobsFor (.finding f)) }

theorem Monitor.takingIn_append (m : Monitor) (fs gs : List Finding) :
    (m.takingIn fs).takingIn gs = m.takingIn (fs ++ gs) := by
  simp only [takingIn, Dispatcher.taking_taking, Dispatcher.jobsFor_taking, Ledger.acceptAll_append,
    List.flatMap_append]

namespace Shared

variable {s : Shared} {c : Circumstances} {a : Action} {n : Monitor}

theorem after_found (accepts : s.monitor.dispatcher.refuses = false) (around : Surroundings)
    (f : Finding) : s.after (.found around f) = ⟨s.monitor.takingIn [f], s.lock⟩ := by
  obtain ⟨events, htake, -⟩ := Intake.takeAll_of_accepts around [.found f]
    (s := .start s.monitor.ledger s.monitor.dispatcher) accepts
  simp only [after, takeIn, htake]
  rfl

/-- Findings that the other scan takes in one after the other are offered to the ledger in their order. -/
theorem foldl_found (accepts : s.monitor.dispatcher.refuses = false) (around : Surroundings)
    (fs : List Finding) :
    fs.foldl (fun s f => s.after (.found around f)) s = ⟨s.monitor.takingIn fs, s.lock⟩ := by
  induction fs generalizing s with
  | nil =>
    simp only [List.foldl_nil, Monitor.takingIn, Ledger.acceptAll, List.flatMap_nil,
      Dispatcher.taking_nil]
  | cons f fs ih =>
    have hnext : (s.after (.found around f)).monitor.dispatcher.refuses = false := by
      rw [after_found accepts]
      exact (Dispatcher.refuses_taking _ _).trans accepts
    rw [List.foldl_cons, ih hnext, after_found accepts, Monitor.takingIn_append,
      List.singleton_append]

/-- **The deeds of another scan make up a scan.**  If nothing comes in between, they leave behind what a scan
does. -/
theorem deeds_of_scan (accepts : s.monitor.dispatcher.refuses = false) (c : Circumstances) :
    ((s.monitor.seen c).foldl (fun s f => s.after (.found c.around f))
        (s.after (.begun c.now))).after (.completed c.now) =
      ⟨s.monitor.afterScan c, s.lock⟩ := by
  have hbegun : (s.after (.begun c.now)).monitor.dispatcher.refuses = false := accepts
  rw [foldl_found hbegun, ← Monitor.rawFindings_eq_seen]
  rfl

/-! ### One operation -/

theorem after_perform (h : s.lock ≠ .own) (c : Circumstances) (a : Action) :
    s.after (.perform c a) = ⟨(s.monitor.perform (c.meeting s.lock) a).monitor, s.lock⟩ := by
  simp only [after, Monitor.performUnder_eq h]

theorem events_perform (h : s.lock ≠ .own) (c : Circumstances) (a : Action) :
    s.events (.perform c a) = (s.monitor.perform (c.meeting s.lock) a).events := by
  simp only [events, Monitor.performUnder_eq h]

/-- **Passing over.**  An operation that finds the lock held passes over the scan that it attempts. -/
theorem skips (hlock : s.lock = .other) (hd : s.monitor.dispatcher.deferred = false)
    (hs : s.monitor.scanner a = some n) : s.Skips c a := by
  have hown : s.lock ≠ .own := by rw [hlock]; nofun
  have hbusy : (c.meeting s.lock).busy = true := by rw [hlock]; rfl
  obtain ⟨hsame, hresult, hnone⟩ := (Monitor.scan_attempts n (c.meeting s.lock)).of_busy hbusy
  obtain ⟨hbooks, hjobs⟩ := (Monitor.perform_performs s.monitor (c.meeting s.lock) a).attempts hs
  have hfound := Monitor.sameBooks_scanner hs
  have hcarry := Monitor.perform_carriesOut hd (c.meeting s.lock) a
  rw [hsame] at hbooks
  rw [hjobs, hnone, List.append_nil] at hcarry
  exact
    { cycles := by rw [after_perform hown, hbooks.cycles, hfound.cycles]
      ledger := by rw [after_perform hown, hbooks.ledger, hfound.ledger]
      lastScan := by rw [after_perform hown, hbooks.lastScan, hfound.lastScan]
      carriesOut := by rwa [events_perform hown]
      result := by rw [Monitor.performUnder_eq hown, Monitor.result_of_scanner hs, hresult] }

/-- The other scan hands out jobs as any scan does. -/
theorem dispatcher_takeIn (s : Shared) (around : Surroundings) (f : Finding) :
    ∃ jobs, (s.takeIn around f).dispatcher = s.monitor.dispatcher.taking jobs := by
  by_cases hrepeat : s.monitor.ledger.isRepeat f = true
  · refine ⟨[], ?_⟩
    simp only [takeIn, Intake.start, Intake.takeAll, Ledger.accept_of_isRepeat hrepeat,
      Dispatcher.taking_nil]
  · simp only [takeIn, Intake.start, Intake.takeAll, Ledger.accept_of_not_isRepeat hrepeat]
    cases hr : s.monitor.dispatcher.refuses with
    | true =>
      rw [Dispatcher.submit_of_refuses hr]
      exact ⟨[], (Dispatcher.taking_nil _).symm⟩
    | false =>
      rw [Dispatcher.submit_of_accepts hr]
      exact ⟨_, rfl⟩

/-- What a deed adds to the account of the scans. -/
structure Adds (s : Shared) (d : Deed) : Prop where
  cycles : (s.after d).monitor.cycles =
    s.monitor.cycles + (Occurrence.begun? ⟨s, d⟩).toList.length
  openings : Event.openings (s.events d) =
    (Occurrence.begun? ⟨s, d⟩).toList.map (Monitor.scanOpened (s.monitor.cycles + 1))
  lastScan : (s.after d).monitor.lastScan = (Occurrence.completed? ⟨s, d⟩).or s.monitor.lastScan

/-- An operation that attempts no scan adds nothing. -/
theorem adds_of_no_attempt (h : s.lock ≠ .own) (hs : s.monitor.scanner a = none) :
    s.Adds (.perform c a) := by
  have hbegun : Occurrence.begun? ⟨s, .perform c a⟩ = none := by
    simp only [Occurrence.begun?, hs, Option.bind_none]
  have hcompleted : Occurrence.completed? ⟨s, .perform c a⟩ = none := by
    simp only [Occurrence.completed?, hs, Option.bind_none]
  obtain ⟨hcycles, hlast⟩ :=
    (Monitor.perform_performs s.monitor (c.meeting s.lock) a).of_no_attempt hs
  have hopenings := Monitor.openings_performed s.monitor (c.meeting s.lock) a
  rw [hs] at hopenings
  constructor
  · rw [after_perform h, hbegun]
    exact hcycles
  · rw [events_perform h, hbegun]
    exact hopenings
  · rw [after_perform h, hcompleted]
    exact hlast

/-- An attempt to scan adds a scan if it takes the lock. -/
theorem adds_of_attempt (h : s.lock ≠ .own) (hs : s.monitor.scanner a = some n) :
    s.Adds (.perform c a) := by
  have hbegun : Occurrence.begun? ⟨s, .perform c a⟩ = s.lock.take.map fun _ => c.now := by
    simp only [Occurrence.begun?, hs, Option.bind_some]
  have hcompleted : Occurrence.completed? ⟨s, .perform c a⟩ =
      (n.scan (c.meeting s.lock)).result.toOption.map Report.finishedAt := by
    simp only [Occurrence.completed?, hs, Option.bind_some, Monitor.scanUnder_eq h]
  obtain ⟨hbooks, -⟩ := (Monitor.perform_performs s.monitor (c.meeting s.lock) a).attempts hs
  have hfound := Monitor.sameBooks_scanner hs
  have hattempt := Monitor.scan_attempts n (c.meeting s.lock)
  have hopenings := Monitor.openings_performed s.monitor (c.meeting s.lock) a
  rw [hs] at hopenings
  constructor
  · rw [after_perform h, hbegun, hbooks.cycles, hattempt.cycles_eq, hfound.cycles]
    cases hlock : s.lock with
    | free => rfl
    | own => exact absurd hlock h
    | other => rfl
  · rw [events_perform h, hbegun, hopenings]
    simp only [hfound.cycles]
    cases hlock : s.lock with
    | free => rfl
    | own => exact absurd hlock h
    | other => rfl
  · rw [after_perform h, hcompleted, hbooks.lastScan, hattempt.lastScan_eq, hfound.lastScan]

/-- **What every deed adds to the account.** -/
theorem adds (h : s.lock ≠ .own) (d : Deed) : s.Adds d := by
  cases d with
  | perform c a =>
    cases hs : s.monitor.scanner a with
    | none => exact adds_of_no_attempt h hs
    | some n => exact adds_of_attempt h hs
  | begun now => exact ⟨rfl, Monitor.openings_scanOpened rfl _ _, rfl⟩
  | found around f =>
    refine ⟨rfl, ?_, rfl⟩
    exact Intake.openings_takeAll around (fun _ h => by cases List.mem_singleton.mp h) _
  | completed now => exact ⟨rfl, rfl, rfl⟩
  | probe p => exact ⟨rfl, rfl, rfl⟩
  | taken => exact ⟨rfl, rfl, rfl⟩
  | released => exact ⟨rfl, rfl, rfl⟩

end Shared

/-! ### Histories -/

theorem numberedOpenings_append (times : List Instant) (more : List Instant) :
    numberedOpenings (times ++ more) =
      numberedOpenings times ++ (more.zipIdx (1 + times.length)).map fun (now, number) =>
        Monitor.scanOpened number now := by
  rw [numberedOpenings, numberedOpenings, List.zipIdx_append, List.map_append]

namespace History

variable {start : Monitor} {past : List Occurrence} {s : Shared}

/-- Between two deeds, the lock is free unless another scan holds it. -/
theorem lock_ne_own (history : History start past s) : s.lock ≠ .own := by
  induction history with
  | here => nofun
  | @step past s _ d _ ih =>
    cases d with
    | perform c a =>
      rw [Shared.after_perform ih]
      exact ih
    | taken => nofun
    | released => nofun
    | _ => exact ih

/-- The dispatcher defers nothing. -/
theorem deferred_eq_false (made : start.Made) (history : History start past s) :
    s.monitor.dispatcher.deferred = false := by
  induction history with
  | here => exact Run.here.deferred_eq_false made
  | @step past s history d _ ih =>
    cases d with
    | perform c a =>
      rw [Shared.after_perform history.lock_ne_own]
      exact (Monitor.perform_performs _ _ _).deferred_eq.trans ih
    | found around f =>
      obtain ⟨jobs, hjobs⟩ := s.dispatcher_takeIn around f
      exact (congrArg Dispatcher.deferred hjobs).trans ((Dispatcher.deferred_taking _ _).trans ih)
    | _ => exact ih

/-- The count of scans is the number of scans that were begun. -/
theorem cycles_eq (made : start.Made) (history : History start past s) :
    s.monitor.cycles = (past.filterMap Occurrence.begun?).length := by
  induction history with
  | here =>
    obtain ⟨config, ledger, sinks, probe, -, rfl⟩ := made.eq_initial
    rfl
  | @step past s history d _ ih =>
    rw [(Shared.adds history.lock_ne_own d).cycles, ih, List.filterMap_append, List.length_append]
    cases h : Occurrence.begun? ⟨s, d⟩ <;> simp [h]

/-- The scans bear the numbers from one on. -/
theorem openings_eq (made : start.Made) (history : History start past s) :
    past.flatMap (fun o => Event.openings (o.before.events o.deed)) =
      numberedOpenings (past.filterMap Occurrence.begun?) := by
  induction history with
  | here => rfl
  | @step past s history d _ ih =>
    -- the number that comes next is one more than the count of scans
    rw [List.flatMap_append, ih, List.filterMap_append, numberedOpenings_append,
      ← history.cycles_eq made, Nat.add_comm 1]
    refine congrArg _ ((List.flatMap_singleton ..).trans ?_)
    rw [(Shared.adds history.lock_ne_own d).openings]
    cases h : Occurrence.begun? ⟨s, d⟩ <;> simp [h]

/-- The latest scan is the last one that was completed. -/
theorem lastScan_eq (made : start.Made) (history : History start past s) :
    s.monitor.lastScan = (past.filterMap Occurrence.completed?).getLast? := by
  induction history with
  | here =>
    obtain ⟨config, ledger, sinks, probe, -, rfl⟩ := made.eq_initial
    rfl
  | @step past s history d _ ih =>
    rw [(Shared.adds history.lock_ne_own d).lastScan, ih, List.filterMap_append,
      List.getLast?_append]
    cases h : Occurrence.completed? ⟨s, d⟩ <;> simp [h]

/-- Everything that happened, happened after a part of the history. -/
theorem exists_of_mem (history : History start past s) {o : Occurrence} (ho : o ∈ past) :
    ∃ earlier, History start earlier o.before := by
  induction history with
  | here => cases ho
  | @step past s history d enabled ih =>
    rcases List.mem_append.mp ho with hold | hnew
    · exact ih hold
    · rw [List.mem_singleton.mp hnew]
      exact ⟨past, history⟩

/-- **Counting scans.**  Whatever happens to a monitor from the time on at which it is made, the count of scans
is the number of scans that were begun, and these bear the numbers from one on; the latest scan is the last one that
was completed; no operation keeps the lock; and an operation that finds it held passes over its scan. -/
theorem accounted (made : start.Made) (history : History start past s) : Accounted past s where
  cycles := history.cycles_eq made
  numbered := history.openings_eq made
  lastScan := history.lastScan_eq made
  lock := by
    cases h : s.lock with
    | free => exact .inl rfl
    | own => exact absurd h history.lock_ne_own
    | other => exact .inr rfl
  released := fun o ho c a hdeed => by
    obtain ⟨earlier, hearlier⟩ := history.exists_of_mem ho
    rw [hdeed, Shared.after_perform hearlier.lock_ne_own]
  skipped := fun o ho c a hdeed hattempts hlock => by
    obtain ⟨earlier, hearlier⟩ := history.exists_of_mem ho
    obtain ⟨n, hs⟩ := Option.isSome_iff_exists.mp hattempts
    exact Shared.skips hlock (hearlier.deferred_eq_false made) hs

theorem accounted_plain :
    let held : Shared := ⟨.plain, .other⟩
    let refused := held.after (.perform Monitor.quiet .scan)
    let freed := refused.after .released
    let scanned := freed.after (.perform Monitor.quiet .scan)
    Accounted [⟨⟨.plain, .free⟩, .taken⟩, ⟨held, .perform Monitor.quiet .scan⟩, ⟨refused, .released⟩,
        ⟨freed, .perform Monitor.quiet .scan⟩] scanned ∧
      scanned.monitor.cycles = 1 := by
  intro held refused freed scanned
  have htaken : History .plain [⟨⟨.plain, .free⟩, .taken⟩] held := .step .here .taken rfl
  have hrefused := History.step htaken (.perform Monitor.quiet .scan) nofun
  have hfreed := History.step hrefused .released rfl
  have haccount := accounted Monitor.made_plain (.step hfreed (.perform Monitor.quiet .scan) nofun)
  exact ⟨haccount, haccount.cycles⟩

end History

end SourceWatch

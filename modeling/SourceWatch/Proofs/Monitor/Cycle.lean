import SourceWatch.Proofs.Dispatcher.Jobs
import SourceWatch.Proofs.Monitor.Intake

/-!
# What one scan does

A scan sees the findings of the files and then the anomalies of the probe.  Unless the dispatcher refuses a
finding that the ledger does not know, the scan is completed, and what it leaves behind is told by the
ledger alone.

Main definitions:

* `Monitor.seen`: the findings that there are for the next scan, spelled out;
* `Monitor.breakingPoint`: the finding at which the next scan breaks off, if it does;
* `Monitor.afterScan`, `Monitor.reportOf`, `Monitor.brokenOff`: what a scan leaves behind and yields.

Main statements:

* `Monitor.rawFindings_eq_seen`: what a scan sees;
* `Intake.takeAll_of_accepts`, `Intake.takeAll_of_refuses`: taking in, whatever the dispatcher does;
* `Monitor.runCycle_of_completes`, `Monitor.runCycle_of_breaks`: the two ways in which a scan ends.
-/

namespace SourceWatch

/-! ### What there is to see -/

/-- The findings that a detector makes in a file: those of the keywords and then those of the patterns, in
the order of the catalog.  A file that is skipped or cannot be read has none. -/
def Detector.findingsIn (d : Detector) (top : Folder) (stamp : Stamp) (path : String) :
    List Finding :=
  match d.read top path with
  | .ok (.text content) =>
    ((d.catalog.keywordRules.filter fun rule => Text.occursIn rule.keyword.toList content).map
        (keywordFinding stamp path)) ++
      (d.catalog.structuralRules.filter fun rule => rule.pattern.search content).map
        (structuralFinding stamp path)
  | _ => []

/-- The findings that report the anomalies of a probe; a probe that fails has none. -/
def Probe.findings (p : Probe) (stamp : Stamp) : List Finding :=
  match p with
  | .static anomalies => anomalies.map (Finding.ofAnomaly stamp)
  | _ => []

theorem Detector.scanFile_eq_findingsIn (d : Detector) (top : Folder) (stamp : Stamp)
    (path : String) : (d.scanFile top stamp path).2 = d.findingsIn top stamp path := by
  unfold scanFile findingsIn
  split <;> simp_all [inspect]

theorem Detector.cycle_of_mem_findingsIn {d : Detector} {top : Folder} {stamp : Stamp}
    {path : String} {f : Finding} (h : f ∈ d.findingsIn top stamp path) : f.cycle = stamp.cycle := by
  unfold findingsIn at h
  split at h
  · rcases List.mem_append.mp h with h | h
    · obtain ⟨rule, _, rfl⟩ := List.mem_map.mp h
      rfl
    · obtain ⟨rule, _, rfl⟩ := List.mem_map.mp h
      rfl
  · cases h

theorem Probe.cycle_of_mem_findings {p : Probe} {stamp : Stamp} {f : Finding}
    (h : f ∈ p.findings stamp) : f.cycle = stamp.cycle := by
  unfold findings at h
  split at h
  · obtain ⟨a, _, rfl⟩ := List.mem_map.mp h
    rfl
  · cases h

namespace Monitor

/-- The findings that there are for the next scan: those in the files, in the order of the walk, and then
those of the probe. -/
def seen (m : Monitor) (c : Circumstances) : List Finding :=
  ((m.walker.traverse c.files m.root).files.flatMap fun path =>
      m.detector.findingsIn c.files (m.nextStamp c) path.render) ++
    m.probe.findings (m.nextStamp c)

theorem findings_probeSightings (m : Monitor) (stamp : Stamp) :
    Sighting.findings (m.probeSightings stamp) = m.probe.findings stamp := by
  unfold probeSightings Probe.findings
  generalize m.probe = p
  cases p with
  | absent => rfl
  | silent => rfl
  | static anomalies =>
    have hmap : anomalies.map (fun a => Sighting.found (Finding.ofAnomaly stamp a)) =
        (anomalies.map (Finding.ofAnomaly stamp)).map .found := by
      rw [List.map_map]
      rfl
    exact (congrArg Sighting.findings hmap).trans (Sighting.findings_found _)
  | failing reason => rfl

/-- **What a scan sees.** -/
theorem rawFindings_eq_seen (m : Monitor) (c : Circumstances) : m.rawFindings c = m.seen c := by
  rw [rawFindings, sightings, Sighting.findings_append, Sighting.findings_append,
    Sighting.findings_noted, Sighting.findings_flatMap, findings_probeSightings, List.nil_append]
  simp only [findings_fileSightings, Detector.scanFile_eq_findingsIn]
  rfl

/-- Every finding of a scan bears the number of the scan. -/
theorem cycle_of_mem_seen {m : Monitor} {c : Circumstances} {f : Finding} (h : f ∈ m.seen c) :
    f.cycle = (m.cycles + 1 : ℕ) := by
  rcases List.mem_append.mp h with h | h
  · obtain ⟨path, _, h⟩ := List.mem_flatMap.mp h
    exact Detector.cycle_of_mem_findingsIn h
  · exact Probe.cycle_of_mem_findings h

end Monitor

/-! ### Offering to the ledger -/

namespace Ledger

/-- The first of some findings that a ledger does not know. -/
def firstNew? (l : Ledger) (fs : List Finding) : Option Finding :=
  fs.find? fun f => !l.isRepeat f

variable {l : Ledger} {f : Finding} {fs : List Finding}

theorem firstNew?_cons_of_isRepeat (h : l.isRepeat f = true) (fs : List Finding) :
    l.firstNew? (f :: fs) = l.firstNew? fs := by
  simp [firstNew?, h]

theorem firstNew?_cons_of_not_isRepeat (h : ¬ l.isRepeat f = true) (fs : List Finding) :
    l.firstNew? (f :: fs) = some f := by
  simp [firstNew?, h]

theorem acceptAll_of_firstNew?_eq_none (h : l.firstNew? fs = none) : l.acceptAll fs = (l, []) := by
  apply acceptAll_of_isRepeat
  simpa [firstNew?] using h

/-- The findings that are taken are some of those that are offered, in their order. -/
theorem acceptAll_sublist (l : Ledger) (fs : List Finding) : (l.acceptAll fs).2.Sublist fs := by
  induction fs generalizing l with
  | nil => exact .slnil
  | cons f fs ih =>
    by_cases h : l.isRepeat f = true
    · rw [acceptAll_cons_of_isRepeat h]
      exact (ih l).cons f
    · rw [acceptAll_cons_of_not_isRepeat h]
      exact (ih _).cons_cons f

/-- Offering some findings first takes a part of what is taken. -/
theorem acceptAll_append (l : Ledger) (fs gs : List Finding) :
    l.acceptAll (fs ++ gs) =
      (((l.acceptAll fs).1.acceptAll gs).1, (l.acceptAll fs).2 ++ ((l.acceptAll fs).1.acceptAll gs).2) := by
  induction fs generalizing l with
  | nil => rfl
  | cons f fs ih =>
    by_cases h : l.isRepeat f = true
    · rw [List.cons_append, acceptAll_cons_of_isRepeat h, acceptAll_cons_of_isRepeat h, ih]
    · rw [List.cons_append, acceptAll_cons_of_not_isRepeat h, acceptAll_cons_of_not_isRepeat h, ih]
      rfl

theorem entries_record_subset (l : Ledger) (f : Finding) :
    (l.record f).entries ⊆ l.entries ++ [f] :=
  (l.entries_record_suffix f).subset

/-- What the ledger holds after an offer, it held before or has taken. -/
theorem entries_acceptAll_subset (l : Ledger) (fs : List Finding) :
    (l.acceptAll fs).1.entries ⊆ l.entries ++ (l.acceptAll fs).2 := by
  induction fs generalizing l with
  | nil => exact List.subset_append_left _ _
  | cons f fs ih =>
    by_cases h : l.isRepeat f = true
    · rw [acceptAll_cons_of_isRepeat h]
      exact ih l
    · rw [acceptAll_cons_of_not_isRepeat h]
      intro g hg
      rcases List.mem_append.mp (ih _ hg) with hold | hnew
      · have := entries_record_subset l f hold
        simp only [List.mem_append, List.mem_singleton] at this
        simp only [List.mem_append, List.mem_cons]
        tauto
      · exact List.mem_append_right _ (List.mem_cons_of_mem f hnew)

end Ledger

/-! ### Taking in -/

namespace Sighting

theorem findings_cons_found (f : Finding) (seen : List Sighting) :
    findings (.found f :: seen) = f :: findings seen :=
  rfl

end Sighting

namespace Intake

/-- **Taking in while the dispatcher takes jobs.**  The ledger decides, and the jobs are those for the
findings that it took. -/
theorem takeAll_of_accepts (around : Surroundings) (seen : List Sighting) {s : Intake}
    (h : s.dispatcher.refuses = false) :
    let offered := s.ledger.acceptAll (Sighting.findings seen)
    let jobs := offered.2.flatMap fun f => s.dispatcher.jobsFor (.finding f)
    ∃ events, s.takeAll around seen =
        (⟨offered.1, s.dispatcher.taking jobs, s.raw + (Sighting.findings seen).length,
          s.accepted ++ offered.2, s.events ++ events⟩, none) ∧
      (s.dispatcher.deferred = false → CarriesOut around jobs events) := by
  induction seen generalizing s with
  | nil =>
    refine ⟨[], ?_, fun _ => .nil⟩
    show (s, none) = _
    simp only [Sighting.findings, List.filterMap_nil, Ledger.acceptAll, List.flatMap_nil,
      Dispatcher.taking_nil, List.append_nil, List.length_nil, Nat.add_zero]
  | cons sighting seen ih =>
    cases sighting with
    | noted record =>
      obtain ⟨events, htake, hcarry⟩ := ih (s := { s with events := s.events ++ [.logged record] }) h
      refine ⟨.logged record :: events, ?_, fun hd => .record record (hcarry hd)⟩
      rw [takeAll, htake, List.append_assoc]
      rfl
    | found f =>
      have hraw : s.raw + 1 + (Sighting.findings seen).length =
          s.raw + (f :: Sighting.findings seen).length := by
        rw [List.length_cons]
        omega
      rw [Sighting.findings_cons_found]
      by_cases hr : s.ledger.isRepeat f = true
      · obtain ⟨events, htake, hcarry⟩ := ih (s := { s with raw := s.raw + 1 }) h
        rw [Ledger.acceptAll_cons_of_isRepeat hr, takeAll, Ledger.accept_of_isRepeat hr]
        rw [hraw] at htake
        exact ⟨events, htake, hcarry⟩
      · -- the jobs for `f` come first, and what is left is taken in by the dispatcher that took them
        obtain ⟨events, htake, hcarry⟩ := ih (s :=
          ⟨s.ledger.record f, s.dispatcher.taking (s.dispatcher.jobsFor (.finding f)), s.raw + 1,
            s.accepted ++ [f], s.events ++ Job.performAll around
              (if s.dispatcher.deferred then [] else s.dispatcher.jobsFor (.finding f))⟩)
          ((Dispatcher.refuses_taking _ _).trans h)
        rw [Ledger.acceptAll_cons_of_not_isRepeat hr, takeAll, Ledger.accept_of_not_isRepeat hr]
        simp only [Dispatcher.submit_of_accepts h, Dispatcher.jobsFor_taking,
          Dispatcher.deferred_taking, Dispatcher.taking_taking, hraw, List.append_assoc] at htake hcarry ⊢
        refine ⟨_, htake, fun hd => ?_⟩
        rw [hd]
        exact (CarriesOut.performAll around _).append (hcarry hd)

/-- Sightings that are all known to the ledger are taken in, whatever the dispatcher does. -/
theorem takeAll_of_known (around : Surroundings) (seen : List Sighting) {s : Intake}
    (h : s.ledger.firstNew? (Sighting.findings seen) = none) :
    ∃ events, s.takeAll around seen =
        (⟨s.ledger, s.dispatcher, s.raw + (Sighting.findings seen).length, s.accepted,
          s.events ++ events⟩, none) ∧
      CarriesOut around [] events := by
  induction seen generalizing s with
  | nil =>
    refine ⟨[], ?_, .nil⟩
    show (s, none) = _
    simp only [Sighting.findings, List.filterMap_nil, List.append_nil, List.length_nil, Nat.add_zero]
  | cons sighting seen ih =>
    cases sighting with
    | noted record =>
      obtain ⟨events, htake, hcarry⟩ := ih (s := { s with events := s.events ++ [.logged record] }) h
      refine ⟨.logged record :: events, ?_, .record record hcarry⟩
      rw [takeAll, htake, List.append_assoc]
      rfl
    | found f =>
      rw [Sighting.findings_cons_found] at h ⊢
      by_cases hr : s.ledger.isRepeat f = true
      · rw [Ledger.firstNew?_cons_of_isRepeat hr] at h
        obtain ⟨events, htake, hcarry⟩ := ih (s := { s with raw := s.raw + 1 }) h
        refine ⟨events, ?_, hcarry⟩
        rw [takeAll, Ledger.accept_of_isRepeat hr]
        refine htake.trans ?_
        simp only [List.length_cons]
        congr 2
        omega
      · rw [Ledger.firstNew?_cons_of_not_isRepeat hr] at h
        cases h

/-- **Taking in while the dispatcher refuses.**  The first finding that the ledger does not know is recorded,
and nothing is taken in after it. -/
theorem takeAll_of_refuses (around : Surroundings) (seen : List Sighting) {s : Intake} {f : Finding}
    (h : s.dispatcher.refuses = true)
    (hf : s.ledger.firstNew? (Sighting.findings seen) = some f) :
    ∃ raw events, s.takeAll around seen =
        (⟨s.ledger.record f, s.dispatcher, raw, s.accepted, s.events ++ events⟩, some .mk) ∧
      CarriesOut around [] events := by
  induction seen generalizing s with
  | nil => cases hf
  | cons sighting seen ih =>
    cases sighting with
    | noted record =>
      obtain ⟨raw, events, htake, hcarry⟩ :=
        ih (s := { s with events := s.events ++ [.logged record] }) h hf
      refine ⟨raw, .logged record :: events, ?_, .record record hcarry⟩
      rw [takeAll, htake, List.append_assoc]
      rfl
    | found g =>
      rw [Sighting.findings_cons_found] at hf
      by_cases hr : s.ledger.isRepeat g = true
      · rw [Ledger.firstNew?_cons_of_isRepeat hr] at hf
        obtain ⟨raw, events, htake, hcarry⟩ := ih (s := { s with raw := s.raw + 1 }) h hf
        refine ⟨raw, events, ?_, hcarry⟩
        rw [takeAll, Ledger.accept_of_isRepeat hr]
        exact htake
      · rw [Ledger.firstNew?_cons_of_not_isRepeat hr] at hf
        cases hf
        refine ⟨s.raw + 1, [], ?_, .nil⟩
        rw [takeAll, Ledger.accept_of_not_isRepeat hr, List.append_nil]
        simp only [Dispatcher.submit_of_refuses h]

end Intake

/-! ### One scan -/

namespace Monitor

variable {m : Monitor} {c : Circumstances} {f : Finding}

/-- The findings that the next scan reports. -/
def novel (m : Monitor) (c : Circumstances) : List Finding :=
  (m.ledger.acceptAll (m.rawFindings c)).2

/-- The jobs for the findings that the next scan reports. -/
def novelJobs (m : Monitor) (c : Circumstances) : List Job :=
  (m.novel c).flatMap fun f => m.dispatcher.jobsFor (.finding f)

/-- The finding at which the next scan breaks off, if it does: the first one that the ledger does not know,
while the dispatcher refuses it. -/
def breakingPoint (m : Monitor) (c : Circumstances) : Option Finding :=
  if m.dispatcher.refuses then m.ledger.firstNew? (m.rawFindings c) else none

/-- The monitor after a scan that is completed. -/
def afterScan (m : Monitor) (c : Circumstances) : Monitor :=
  { m with
    cycles := m.cycles + 1
    ledger := (m.ledger.acceptAll (m.rawFindings c)).1
    dispatcher := m.dispatcher.taking (m.novelJobs c)
    lastScan := some c.now }

/-- The report of a scan that is completed. -/
def reportOf (m : Monitor) (c : Circumstances) : Report :=
  { cycle := m.cycles + 1
    root := m.root
    startedAt := c.now
    finishedAt := c.now
    filesScanned := (m.walker.traverse c.files m.root).files.length
    rawFindings := (m.rawFindings c).length
    suppressed := (m.rawFindings c).length - (m.novel c).length
    findings := m.novel c }

/-- The monitor after a scan that breaks off at a finding, which stays in the ledger. -/
def brokenOff (m : Monitor) (f : Finding) : Monitor :=
  { m with cycles := m.cycles + 1, ledger := m.ledger.record f }

/-- A scan whose sightings are all taken in as the ledger decides. -/
theorem runCycle_of_takeAll {events : List Event}
    (h : (Intake.start m.ledger m.dispatcher).takeAll c.around (m.sightings c (m.nextStamp c)).1 =
      (⟨(m.ledger.acceptAll (m.rawFindings c)).1, m.dispatcher.taking (m.novelJobs c),
        0 + (m.rawFindings c).length, [] ++ m.novel c, [] ++ events⟩, none)) :
    m.runCycle c = ⟨m.afterScan c, scanOpened (m.cycles + 1) c.now :: events ++
      [scanClosed (m.cycles + 1) (m.novel c).length
        (m.walker.traverse c.files m.root).files.length], .ok (m.reportOf c)⟩ := by
  rw [nextStamp, Nat.zero_add, List.nil_append, List.nil_append] at h
  simp only [runCycle, h]
  rfl

/-- The records that open and close a scan are no jobs. -/
theorem carriesOut_opened_closed {around : Surroundings} {jobs : List Job} {events : List Event}
    (h : CarriesOut around jobs events) (cycle accepted files : ℕ) (now : Instant) :
    CarriesOut around jobs
      (scanOpened cycle now :: events ++ [scanClosed cycle accepted files]) := by
  refine .record _ ?_
  rw [scanClosed]
  split
  · exact h.append_record _
  · exact h.append_record _

/-- **A scan that is completed.** -/
theorem runCycle_of_completes (h : m.breakingPoint c = none) :
    ∃ events, m.runCycle c = ⟨m.afterScan c, events, .ok (m.reportOf c)⟩ ∧
      (m.dispatcher.deferred = false → CarriesOut c.around (m.novelJobs c) events) := by
  by_cases hr : m.dispatcher.refuses = true
  · -- nothing is new to the ledger, so nothing is refused
    rw [breakingPoint, if_pos hr] at h
    obtain ⟨events, htake, hcarry⟩ := Intake.takeAll_of_known c.around
      (m.sightings c (m.nextStamp c)).1 (s := .start m.ledger m.dispatcher) h
    have hoffer := Ledger.acceptAll_of_firstNew?_eq_none h
    have hjobs : m.novelJobs c = [] := by
      rw [novelJobs, novel, hoffer]
      rfl
    have hscan := @runCycle_of_takeAll m c events (by
      rw [htake, hjobs, novel, hoffer, Dispatcher.taking_nil]
      rfl)
    rw [hjobs]
    exact ⟨_, hscan, fun _ => carriesOut_opened_closed hcarry _ _ _ _⟩
  · rw [Bool.not_eq_true] at hr
    obtain ⟨events, htake, hcarry⟩ := Intake.takeAll_of_accepts c.around
      (m.sightings c (m.nextStamp c)).1 (s := .start m.ledger m.dispatcher) hr
    have hscan := runCycle_of_takeAll (m := m) (c := c) htake
    exact ⟨_, hscan, fun hd => carriesOut_opened_closed (hcarry hd) _ _ _ _⟩

/-- **A scan that breaks off.** -/
theorem runCycle_of_breaks (h : m.breakingPoint c = some f) :
    ∃ events, m.runCycle c = ⟨m.brokenOff f, events, .error .dispatcherClosed⟩ ∧
      CarriesOut c.around [] events := by
  by_cases hr : m.dispatcher.refuses = true
  · rw [breakingPoint, if_pos hr] at h
    obtain ⟨raw, events, htake, hcarry⟩ := Intake.takeAll_of_refuses c.around
      (m.sightings c (m.nextStamp c)).1 (s := .start m.ledger m.dispatcher) hr h
    rw [nextStamp] at htake
    refine ⟨scanOpened (m.cycles + 1) c.now :: events, ?_, .record _ hcarry⟩
    simp only [runCycle, htake]
    rfl
  · rw [breakingPoint, if_neg hr] at h
    cases h

end Monitor

end SourceWatch

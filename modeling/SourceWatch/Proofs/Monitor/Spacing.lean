import SourceWatch.Proofs.Ledger.Spacing
import SourceWatch.Proofs.Monitor.Firsts

/-!
# The spacing of the ledger of a monitor

Scans and tests are all that records.  A scan, also one that breaks off, records what the window does not show;
a test always records.  Both stamp what they record with the number of scans that were begun.

Main definitions:

* `Moment.recordings`: what an operation records, and whether a scan or a test does;
* `InOrder`: recordings bear numbers of scans that never fall;
* `Run.WellSpaced`: the entries of the ledger are apart and in order.

Main statements:

* `Monitor.Performs.ledger_eq`: the ledger after an operation is the one before with its recordings;
* `Run.ledger_wellSpaced`: the ledger of a run is well spaced.
-/

namespace SourceWatch

namespace Monitor

/-- What an attempt to scan records. -/
def scanRecordings (m : Monitor) (c : Circumstances) : List Recording :=
  if c.busy then [] else (m.taken c).map .scanned

/-- What an operation records. -/
def recordings (m : Monitor) (c : Circumstances) (a : Action) : List Recording :=
  match m.scanner a with
  | some s => s.scanRecordings c
  | none => if a = .test then [⟨m.testFinding c, .test⟩] else []

end Monitor

/-- What an operation of a run records. -/
def Moment.recordings (t : Moment) : List Recording :=
  t.before.recordings t.circumstances t.action

namespace Monitor

variable {m n s : Monitor} {c : Circumstances} {a : Action} {jobs : List Job} {log : List Recording}

/-- What is recorded as a test is the finding of a test. -/
theorem test_of_mem_recordings {r : Recording} (h : r ∈ m.recordings c a) (hr : r.origin = .test) :
    a = .test ∧ r.finding = m.testFinding c := by
  unfold recordings scanRecordings at h
  split at h
  · split at h
    · cases h
    · obtain ⟨f, _, rfl⟩ := List.mem_map.mp h
      cases hr
  · split at h
    · next ha =>
      rw [List.mem_singleton.mp h]
      exact ⟨ha, rfl⟩
    · cases h

/-! ### Attempts to scan -/

/-- Every finding that is taken bears the number of the scan. -/
theorem cycle_of_mem_taken {f : Finding} (h : f ∈ m.taken c) : f.cycle = (m.cycles + 1 : ℕ) := by
  have hraw := (m.ledger.acceptAll_sublist _).subset ((m.taken_sublist_novel c).subset h)
  rw [rawFindings_eq_seen] at hraw
  exact cycle_of_mem_seen hraw

/-- An attempt to scan keeps entries apart. -/
theorem Attempt.holdsSpaced {result : Except MonitorFault Report} (h : Attempt m c n result jobs)
    (hm : m.ledger.HoldsSpaced log) : n.ledger.HoldsSpaced (log ++ m.scanRecordings c) := by
  cases h with
  | skipped busy =>
    rw [scanRecordings, if_pos busy, List.append_nil]
    exact hm
  | completed idle whole =>
    have htaken : m.taken c = m.novel c := by rw [taken, whole]
    rw [scanRecordings, idle, htaken]
    exact hm.acceptAll _
  | brokenOff idle f breaks =>
    have htaken : m.taken c = [f] := by rw [taken, breaks]
    -- the scan breaks off at a finding that the ledger does not know
    have hnew : ¬ m.ledger.isRepeat f = true := by
      rw [breakingPoint] at breaks
      split at breaks
      · simpa using List.find?_some breaks
      · cases breaks
    rw [scanRecordings, idle, htaken]
    exact hm.record (.scanned f) (.inr hnew)

theorem Attempt.ledger_eq {result : Except MonitorFault Report} (h : Attempt m c n result jobs) :
    n.ledger = m.ledger.recordAll ((m.scanRecordings c).map Recording.finding) := by
  cases hbusy : c.busy with
  | true =>
    rw [(h.of_busy hbusy).1, scanRecordings, if_pos hbusy]
    rfl
  | false =>
    rw [h.takes.1 hbusy, scanRecordings, hbusy]
    exact congrArg _ (map_finding_scanned _).symm

/-! ### Operations -/

/-- Of the operations that attempt no scan, only a test records. -/
theorem Performs.ledger_of_no_attempt {result : Except MonitorFault Answer}
    (h : Performs m c a n result jobs) (hs : m.scanner a = none) :
    n.ledger = if a = .test then m.ledger.record (m.testFinding c) else m.ledger := by
  cases h with
  | scan attempt => cases hs
  | tick attempt => cases hs
  | started idle long accepts attempt =>
    rw [scanner_start idle long accepts] at hs
    cases hs
  | closeRefused stop =>
    cases stop
    rfl
  | closed stop => cases stop <;> rfl
  | _ => rfl

/-- **The ledger after an operation** is the one before with the recordings of the operation. -/
theorem Performs.ledger_eq {result : Except MonitorFault Answer} (h : Performs m c a n result jobs) :
    n.ledger = m.ledger.recordAll ((m.recordings c a).map Recording.finding) := by
  unfold recordings
  cases hs : m.scanner a with
  | some s =>
    rw [(h.attempts hs).1.ledger, (scan_attempts s c).ledger_eq, (sameBooks_scanner hs).ledger]
  | none =>
    rw [h.ledger_of_no_attempt hs]
    by_cases ha : a = .test
    · rw [if_pos ha, if_pos ha]
      rfl
    · rw [if_neg ha, if_neg ha]
      rfl

/-- **An operation keeps entries apart.** -/
theorem Performs.holdsSpaced {result : Except MonitorFault Answer} (h : Performs m c a n result jobs)
    (hm : m.ledger.HoldsSpaced log) : n.ledger.HoldsSpaced (log ++ m.recordings c a) := by
  unfold recordings
  cases hs : m.scanner a with
  | some s =>
    rw [(h.attempts hs).1.ledger]
    exact (scan_attempts s c).holdsSpaced ((sameBooks_scanner hs).ledger.symm ▸ hm)
  | none =>
    rw [h.ledger_of_no_attempt hs]
    by_cases ha : a = .test
    · rw [if_pos ha, if_pos ha]
      exact hm.record ⟨m.testFinding c, .test⟩ (.inl rfl)
    · rw [if_neg ha, if_neg ha, List.append_nil]
      exact hm

end Monitor

/-! ### The numbers of scans -/

/-- Recordings bear numbers of scans that never fall and that do not exceed `cycles`. -/
structure InOrder (log : List Recording) (cycles : ℕ) : Prop where
  rising : log.Pairwise fun earlier later => earlier.finding.cycle ≤ later.finding.cycle
  atMost : ∀ r ∈ log, r.finding.cycle ≤ cycles

/-- Recordings with one number that is not exceeded by the others may follow. -/
theorem InOrder.append {log more : List Recording} {cycles cycles' : ℕ} (h : InOrder log cycles)
    (number : ℕ) (hmore : ∀ r ∈ more, r.finding.cycle = number) (hle : cycles ≤ number)
    (hle' : number ≤ cycles') : InOrder (log ++ more) cycles' := by
  constructor
  · refine List.pairwise_append.mpr ⟨h.rising, ?_, fun e he r hr => ?_⟩
    · exact List.pairwise_of_forall_mem_list fun e he f hf =>
        Int.le_of_eq ((hmore e he).trans (hmore f hf).symm)
    · have := h.atMost e he
      rw [hmore r hr]
      omega
  · intro r hr
    rcases List.mem_append.mp hr with hr | hr
    · have := h.atMost r hr
      omega
    · rw [hmore r hr]
      omega

namespace Monitor

variable {m n : Monitor} {c : Circumstances} {a : Action} {jobs : List Job} {log : List Recording}

/-- **An operation keeps recordings in order.** -/
theorem Performs.inOrder {result : Except MonitorFault Answer} (h : Performs m c a n result jobs)
    (hm : InOrder log m.cycles) : InOrder (log ++ m.recordings c a) n.cycles := by
  unfold recordings
  cases hs : m.scanner a with
  | some s =>
    have hcycles : n.cycles = if c.busy then m.cycles else m.cycles + 1 := by
      rw [(h.attempts hs).1.cycles, (scan_attempts s c).cycles_eq, (sameBooks_scanner hs).cycles]
    cases hbusy : c.busy with
    | true =>
      rw [hbusy] at hcycles
      refine hm.append m.cycles ?_ le_rfl hcycles.ge
      simp [scanRecordings, hbusy]
    | false =>
      rw [hbusy] at hcycles
      refine hm.append (m.cycles + 1) ?_ (Nat.le_succ _) hcycles.ge
      intro r hr
      simp only [scanRecordings, hbusy] at hr
      obtain ⟨f, hf, rfl⟩ := List.mem_map.mp hr
      rw [← (sameBooks_scanner hs).cycles]
      exact cycle_of_mem_taken hf
  | none =>
    refine hm.append m.cycles ?_ le_rfl (h.of_no_attempt hs).1.ge
    intro r hr
    dsimp only at hr
    split at hr
    · rw [List.mem_singleton.mp hr]
      rfl
    · cases hr

end Monitor

/-! ### Runs -/

namespace Run

variable {start m : Monitor} {past : List Moment}

/-- What the operations of a run recorded, oldest first. -/
def log (past : List Moment) : List Recording :=
  past.flatMap Moment.recordings

theorem log_concat (past : List Moment) (t : Moment) : log (past ++ [t]) = log past ++ t.recordings := by
  rw [log, List.flatMap_append, List.flatMap_singleton]
  rfl

/-- **A ledger that is well spaced.**  It is what the recordings of the run make of the ledger at the start.  Its
entries are the end of the log, two entries with one key that are within the window of each other are so by a
test, and the numbers of scans never fall and do not exceed the count. -/
structure WellSpaced (start : Monitor) (past : List Moment) (m : Monitor) : Prop where
  recorded : m.ledger = start.ledger.recordAll ((log past).map Recording.finding)
  tested : ∀ r ∈ log past, r.origin = .test →
    ∃ t ∈ past, t.action = .test ∧ r.finding = t.before.testFinding t.circumstances
  spaced : ∃ held, held <:+ log past ∧ held.map Recording.finding = m.ledger.entries ∧
    Spaced m.ledger.window held
  rising : (m.ledger.entries.map Finding.cycle).Pairwise (· ≤ ·)
  atMost : ∀ f ∈ m.ledger.entries, f.cycle ≤ m.cycles

/-- The ledger of a run is made by its recordings. -/
theorem ledger_eq_recordAll (run : Run start past m) :
    m.ledger = start.ledger.recordAll ((log past).map Recording.finding) := by
  induction run with
  | here => rfl
  | probe _ p ih => exact ih
  | @step past m _ c a _ ih =>
    rw [(Monitor.perform_performs m c a).ledger_eq, ih, ← Ledger.recordAll_append, ← List.map_append,
      log_concat]
    rfl

/-- The entries of the ledger are kept apart. -/
theorem holdsSpaced (made : start.Made) (run : Run start past m) : m.ledger.HoldsSpaced (log past) := by
  induction run with
  | here =>
    obtain ⟨config, ledger, sinks, probe, hnil, rfl⟩ := made.eq_initial
    exact Ledger.holdsSpaced_of_nil hnil
  | probe _ p ih => exact ih
  | @step past m _ c a _ ih =>
    rw [log_concat]
    exact (Monitor.perform_performs m c a).holdsSpaced ih

/-- The recordings of a run are in order. -/
theorem inOrder (run : Run start past m) : InOrder (log past) m.cycles := by
  induction run with
  | here => exact ⟨.nil, fun r hr => by cases hr⟩
  | probe _ p ih => exact ih
  | @step past m _ c a _ ih =>
    rw [log_concat]
    exact (Monitor.perform_performs m c a).inOrder ih

/-- **The ledger of a run is well spaced,** whatever fails on the way. -/
theorem ledger_wellSpaced (made : start.Made) (run : Run start past m) : WellSpaced start past m := by
  obtain ⟨held, hsuffix, hentries, hspaced⟩ := run.holdsSpaced made
  have horder := run.inOrder
  refine ⟨run.ledger_eq_recordAll, fun r hr horigin => ?_, ⟨held, hsuffix, hentries, hspaced⟩, ?_, ?_⟩
  · obtain ⟨t, ht, hmem⟩ := List.mem_flatMap.mp hr
    exact ⟨t, ht, Monitor.test_of_mem_recordings hmem horigin⟩
  · rw [← hentries, List.map_map, List.pairwise_map]
    exact horder.rising.sublist hsuffix.sublist
  · intro f hf
    rw [← hentries] at hf
    obtain ⟨r, hr, rfl⟩ := List.mem_map.mp hf
    exact horder.atMost r (hsuffix.subset hr)

/-- Two tests: their findings have one key and stand side by side. -/
theorem ledger_wellSpaced_twoTests :
    let tested := (Monitor.plain.perform Monitor.quiet .test).monitor
    let again := (tested.perform Monitor.quiet .test).monitor
    let past : List Moment := [⟨.plain, Monitor.quiet, .test⟩, ⟨tested, Monitor.quiet, .test⟩]
    Monitor.plain.Made ∧ Run .plain past again ∧
      again.ledger.entries.map Finding.key = List.replicate 2 ⟨"test-file.js", testCategory, none⟩ ∧
      WellSpaced .plain past again := by
  intro tested again past
  have henabled : ∀ m : Monitor, m.Enables .test := fun m h => by cases h
  have hrun : Run .plain past again :=
    .step (.step .here Monitor.quiet .test (henabled _)) Monitor.quiet .test (henabled _)
  exact ⟨Monitor.made_plain, hrun, rfl, ledger_wellSpaced Monitor.made_plain hrun⟩

end Run

end SourceWatch

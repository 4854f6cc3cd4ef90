import SourceWatch.Proofs.Monitor.Run

/-!
# Operations that attempt to scan

A scan that is asked for, a tick and a start attempt to scan; a start does so only if it opens a session and
gets past its announcement.  All else that such an operation does, it does before or after the attempt.

Main definitions:

* `Action.answerTo`: what an operation yields that attempts to scan;
* `Monitor.scanner`: the monitor at the moment at which an operation attempts to scan;
* `Monitor.opening`: the jobs that an operation hands out before that;
* `Monitor.SameBooks`: two monitors that tell the same of the scans so far.

Main statements:

* `Monitor.Performs.attempts`: what an operation does that attempts to scan;
* `Monitor.Performs.of_no_attempt`: what an operation leaves alone that does not.
-/

namespace SourceWatch

/-- What an operation yields when the scan that it attempts yields `result`. -/
def Action.answerTo (result : Except MonitorFault Report) : Action → Except MonitorFault Answer
  | .scan => result.map .report
  | .start _ => .ok (.changed true)
  | .tick | .stop | .test | .close => .ok .done

namespace Monitor

/-- The monitor at the moment at which an operation attempts to scan, if it does. -/
def scanner (m : Monitor) : Action → Option Monitor
  | .scan | .tick => some m
  | .start interval =>
    if m.running || interval.any (· < 1) || m.dispatcher.refuses then none
    else some (m.announced interval)
  | .stop | .test | .close => none

/-- The jobs that an operation hands out before it attempts to scan. -/
def opening (m : Monitor) : Action → List Job
  | .start _ => m.dispatcher.jobsFor (.announcement startAnnouncement)
  | _ => []

/-- Two monitors that tell the same of the scans so far. -/
structure SameBooks (m n : Monitor) : Prop where
  cycles : n.cycles = m.cycles
  lastScan : n.lastScan = m.lastScan
  ledger : n.ledger = m.ledger

variable {m n s : Monitor} {c : Circumstances} {a : Action} {jobs : List Job}

theorem sameBooks_armTimer (m : Monitor) : SameBooks m m.armTimer := by
  cases h : m.session with
  | none =>
    simp only [armTimer, h]
    exact ⟨rfl, rfl, rfl⟩
  | some session =>
    rw [armTimer_of_session h]
    exact ⟨rfl, rfl, rfl⟩

theorem scanner_start {interval : Option Int} (idle : m.running = false)
    (long : interval.any (· < 1) = false) (accepts : m.dispatcher.refuses = false) :
    m.scanner (.start interval) = some (m.announced interval) := by
  simp only [scanner, idle, long, accepts, Bool.or_self, Bool.false_eq_true, if_false]

/-- The attempt comes at once, or else after the announcement of a session. -/
theorem scanner_eq_some (h : m.scanner a = some s) :
    (a = .scan ∨ a = .tick) ∧ s = m ∨
      ∃ interval, a = .start interval ∧ m.running = false ∧ interval.any (· < 1) = false ∧
        m.dispatcher.refuses = false ∧ s = m.announced interval := by
  cases a with
  | scan => exact .inl ⟨.inl rfl, (Option.some.inj h).symm⟩
  | tick => exact .inl ⟨.inr rfl, (Option.some.inj h).symm⟩
  | start interval =>
    rw [scanner] at h
    split at h
    · cases h
    · next hopen =>
      simp only [Bool.or_eq_true, not_or, Bool.not_eq_true] at hopen
      exact .inr ⟨interval, rfl, hopen.1.1, hopen.1.2, hopen.2, (Option.some.inj h).symm⟩
  | stop => cases h
  | test => cases h
  | close => cases h

/-- The attempt finds the books as the operation found them. -/
theorem sameBooks_scanner (h : m.scanner a = some s) : SameBooks m s := by
  rcases scanner_eq_some h with ⟨-, rfl⟩ | ⟨interval, -, -, -, -, rfl⟩
  · exact ⟨rfl, rfl, rfl⟩
  · exact ⟨rfl, rfl, rfl⟩

theorem sinks_scanner (h : m.scanner a = some s) : s.dispatcher.sinks = m.dispatcher.sinks := by
  rcases scanner_eq_some h with ⟨-, rfl⟩ | ⟨interval, -, -, -, -, rfl⟩
  · rfl
  · exact sinks_announced m interval

/-- An attempt to scan ends as scanning does. -/
theorem Attempt.eq_scan {result : Except MonitorFault Report} (h : Attempt m c n result jobs) :
    n = (m.scan c).monitor ∧ jobs = m.jobs c .scan := by
  have hscan := scan_attempts m c
  generalize (m.scan c).monitor = n' at hscan ⊢
  generalize m.jobs c .scan = jobs' at hscan ⊢
  generalize (m.scan c).result = result' at hscan
  cases h with
  | skipped busy => cases hscan <;> simp_all
  | completed idle whole => cases hscan <;> simp_all
  | brokenOff idle f breaks => cases hscan <;> simp_all

/-- **Attempting to scan.**  An operation that attempts to scan hands out its announcement and then what
scanning hands out, and leaves behind what scanning makes of the books. -/
theorem Performs.attempts {result : Except MonitorFault Answer} (h : Performs m c a n result jobs)
    (hs : m.scanner a = some s) :
    SameBooks (s.scan c).monitor n ∧ jobs = m.opening a ++ s.jobs c .scan := by
  cases h with
  | scan attempt =>
    cases hs
    obtain ⟨rfl, rfl⟩ := attempt.eq_scan
    exact ⟨⟨rfl, rfl, rfl⟩, rfl⟩
  | tick attempt =>
    cases hs
    obtain ⟨rfl, rfl⟩ := attempt.eq_scan
    exact ⟨⟨rfl, rfl, rfl⟩, rfl⟩
  | started idle long accepts attempt =>
    rw [scanner_start idle long accepts] at hs
    cases hs
    obtain ⟨rfl, rfl⟩ := attempt.eq_scan
    exact ⟨sameBooks_armTimer _, rfl⟩
  | alreadyRunning running => simp [scanner, running] at hs
  | tooShort idle short => simp [scanner, short] at hs
  | startRefused idle long refuses => simp [scanner, refuses] at hs
  | _ => cases hs

/-- Only a scan that is asked for tells what became of it. -/
theorem result_of_scanner (hs : m.scanner a = some s) (c : Circumstances) :
    (m.perform c a).result = a.answerTo (s.scan c).result := by
  rcases scanner_eq_some hs with ⟨rfl | rfl, rfl⟩ | ⟨interval, rfl, idle, long, accepts, rfl⟩
  · rfl
  · rfl
  · exact congrArg (Except.map _) (congrArg Outcome.result (start_of_accepts idle long accepts c))

/-- An operation that does not attempt to scan counts no scan. -/
theorem Performs.of_no_attempt {result : Except MonitorFault Answer}
    (h : Performs m c a n result jobs) (hs : m.scanner a = none) :
    n.cycles = m.cycles ∧ n.lastScan = m.lastScan := by
  cases h with
  | scan attempt => cases hs
  | tick attempt => cases hs
  | started idle long accepts attempt =>
    rw [scanner_start idle long accepts] at hs
    cases hs
  | closeRefused stop =>
    cases stop
    exact ⟨rfl, rfl⟩
  | closed stop => cases stop <;> exact ⟨rfl, rfl⟩
  | _ => exact ⟨rfl, rfl⟩

/-! ### What an attempt does -/

/-- An attempt that finds another scan in progress changes nothing. -/
theorem Attempt.of_busy {result : Except MonitorFault Report} (h : Attempt m c n result jobs)
    (busy : c.busy = true) : n = m ∧ result = .error .scanInProgress ∧ jobs = [] := by
  cases h with
  | skipped => exact ⟨rfl, rfl, rfl⟩
  | completed idle =>
    rw [busy] at idle
    cases idle
  | brokenOff idle =>
    rw [busy] at idle
    cases idle

/-- While the dispatcher takes jobs, an attempt is completed unless another scan is in progress. -/
theorem Attempt.of_accepts {result : Except MonitorFault Report} (h : Attempt m c n result jobs)
    (accepts : m.dispatcher.refuses = false) (idle : c.busy = false) :
    n = m.afterScan c ∧ result = .ok (m.reportOf c) ∧ jobs = m.novelJobs c := by
  cases h with
  | skipped busy =>
    rw [idle] at busy
    cases busy
  | completed => exact ⟨rfl, rfl, rfl⟩
  | brokenOff _ f breaks =>
    rw [breakingPoint, accepts] at breaks
    cases breaks

/-- A scan that is begun is counted, whatever becomes of it. -/
theorem Attempt.cycles_eq {result : Except MonitorFault Report} (h : Attempt m c n result jobs) :
    n.cycles = if c.busy then m.cycles else m.cycles + 1 := by
  cases h with
  | skipped busy => rw [if_pos busy]
  | completed idle => exact (if_neg (Bool.eq_false_iff.mp idle)).symm
  | brokenOff idle => exact (if_neg (Bool.eq_false_iff.mp idle)).symm

/-- The latest scan is the last one that was completed. -/
theorem Attempt.lastScan_eq {result : Except MonitorFault Report} (h : Attempt m c n result jobs) :
    n.lastScan = (result.toOption.map Report.finishedAt).or m.lastScan := by
  cases h <;> rfl

end Monitor

end SourceWatch

import SourceWatch.Proofs.Monitor.Attempts

/-!
# The lock on scanning

One scan is in progress at a time: it takes a lock without waiting, and gives it back whatever becomes of the
scan.  Here the operations are spelled out with the lock that they take and give back.  They leave it as they
find it, and do what they do in circumstances that tell whether another scan holds the lock.

Main definitions:

* `Lock`: who holds the lock;
* `Monitor.performUnder`: an operation that takes the lock and gives it back;
* `Circumstances.meeting`: the circumstances of an operation that meets the lock.

Main statement: `Monitor.performUnder_eq`.
-/

namespace SourceWatch

/-- Who holds the lock: nobody, the operation at hand, or another scan. -/
inductive Lock where
  | free
  | own
  | other
  deriving DecidableEq

namespace Lock

/-- Takes the lock without waiting; a lock that is held is not taken. -/
def take : Lock → Option Lock
  | free => some own
  | own | other => none

/-- Gives the lock back. -/
def release (_ : Lock) : Lock :=
  free

end Lock

/-- The circumstances of an operation that meets the lock. -/
def Circumstances.meeting (c : Circumstances) (lock : Lock) : Circumstances :=
  { c with busy := lock = .other }

namespace Monitor

/-! ### Operations with their lock -/

/-- A scan takes the lock, and gives it back also if it fails. -/
def scanUnder (m : Monitor) (lock : Lock) (c : Circumstances) : Lock × Outcome Report :=
  match lock.take with
  | none => (lock, m.refuse .scanInProgress)
  | some held => (held.release, m.runCycle c)

/-- A scan whose failure is only logged. -/
def guardedScanUnder (m : Monitor) (lock : Lock) (c : Circumstances) :
    Lock × Monitor × List Event :=
  let (lock, o) := m.scanUnder lock c
  match o.result with
  | .ok _ => (lock, o.monitor, o.events)
  | .error .scanInProgress =>
    (lock, o.monitor,
      o.events ++ [note .info "Scheduled scan skipped: previous cycle still running"])
  | .error _ => (lock, o.monitor, o.events ++ [note .error "Scan cycle failed"])

/-- Opens a session: announces it, scans at once and arms a timer. -/
def startUnder (m : Monitor) (lock : Lock) (c : Circumstances) (interval : Option Int) :
    Lock × Outcome Bool :=
  if m.running then (lock, ⟨m, [note .info "Monitoring is already active"], .ok false⟩)
  else if interval.any (· < 1) then (lock, m.refuse .intervalTooSmall)
  else
    let m := m.openSession interval
    let opening := note .info s!"Starting continuous security monitoring (every {m.interval}s)"
    let announced := m.announce c.around startAnnouncement
    match announced.result with
    | .error fault => (lock, ⟨announced.monitor, opening :: announced.events, .error fault⟩)
    | .ok () =>
      let (lock, m, events) := announced.monitor.guardedScanUnder lock c
      (lock, ⟨m.armTimer, opening :: announced.events ++ events, .ok true⟩)

/-- Carries out an operation under the lock. -/
def performUnder (m : Monitor) (lock : Lock) (c : Circumstances) : Action → Lock × Outcome Answer
  | .scan =>
    let (lock, o) := m.scanUnder lock c
    (lock, o.map .report)
  | .start interval =>
    let (lock, o) := m.startUnder lock c interval
    (lock, o.map .changed)
  | .stop => (lock, (m.stop c).map .changed)
  | .tick =>
    let (lock, m, events) := m.guardedScanUnder lock c
    (lock, ⟨m, events, .ok .done⟩)
  | .test => (lock, (m.sendTest c).map .finding)
  | .close => (lock, (m.close c).map fun _ => .done)

/-! ### They leave the lock as they find it -/

variable {lock : Lock}

theorem scanUnder_eq (h : lock ≠ .own) (m : Monitor) (c : Circumstances) :
    m.scanUnder lock c = (lock, m.scan (c.meeting lock)) := by
  cases lock with
  | free => rfl
  | own => exact absurd rfl h
  | other => rfl

theorem guardedScanUnder_eq (h : lock ≠ .own) (m : Monitor) (c : Circumstances) :
    m.guardedScanUnder lock c = (lock, m.guardedScan (c.meeting lock)) := by
  simp only [guardedScanUnder, guardedScan, scanUnder_eq h]
  cases (m.scan (c.meeting lock)).result with
  | ok r => rfl
  | error fault => cases fault <;> rfl

theorem startUnder_eq (h : lock ≠ .own) (m : Monitor) (c : Circumstances) (interval : Option Int) :
    m.startUnder lock c interval = (lock, m.start (c.meeting lock) interval) := by
  simp only [startUnder, start, guardedScanUnder_eq h]
  split
  · rfl
  · split
    · rfl
    · show _ = (lock, match ((m.openSession interval).announce c.around startAnnouncement).result with
        | .error fault => _
        | .ok () => _)
      cases ((m.openSession interval).announce c.around startAnnouncement).result with
      | error fault => rfl
      | ok _ => rfl

/-- **The lock is what it was.**  An operation that is carried out under the lock does what it does in
circumstances that tell whether another scan holds the lock, and leaves the lock as it finds it. -/
theorem performUnder_eq (h : lock ≠ .own) (m : Monitor) (c : Circumstances) (a : Action) :
    m.performUnder lock c a = (lock, m.perform (c.meeting lock) a) := by
  cases a with
  | scan =>
    simp only [performUnder, scanUnder_eq h]
    rfl
  | start interval =>
    simp only [performUnder, startUnder_eq h]
    rfl
  | stop => rfl
  | tick =>
    simp only [performUnder, guardedScanUnder_eq h]
    rfl
  | test => rfl
  | close => rfl

end Monitor

end SourceWatch

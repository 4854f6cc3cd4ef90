import SourceWatch.Monitor.Basic

/-!
# Scanning

A scan walks the files, inspects each of them, and then asks the probe. What it sees is taken in one
after the other: a finding that the ledger does not know is recorded and handed to the sinks.

Main definitions:

* `Sighting`, `Monitor.sightings`: what a scan sees, in order.
* `Intake`, `Intake.takeAll`: taking in what is seen.
* `Monitor.runCycle`: one scan.
* `Monitor.scan`: one scan, refused while another is in progress.
* `Monitor.guardedScan`: a scan whose failure is only logged.
-/

namespace SourceWatch

/-- What a scan sees: something to log, or a finding. -/
inductive Sighting where
  | noted (record : LogRecord)
  | found (finding : Finding)
  deriving DecidableEq

namespace Sighting

/-- The findings among sightings. -/
def findings (sightings : List Sighting) : List Finding :=
  sightings.filterMap fun
    | found f => some f
    | noted _ => none

end Sighting

namespace Monitor

/-- What a scan sees in one file. -/
def fileSightings (m : Monitor) (files : Folder) (stamp : Stamp) (path : Path) : List Sighting :=
  let (records, findings) := m.detector.scanFile files stamp path.render
  records.map .noted ++ findings.map .found

/-- What a scan learns from the probe. -/
def probeSightings (m : Monitor) (stamp : Stamp) : List Sighting :=
  match m.probe with
  | .absent | .silent => []
  | .static anomalies => anomalies.map fun a => .found (Finding.ofAnomaly stamp a)
  | .failing _ => [.noted ⟨.error, .scheduler, "Activity probe failed"⟩]

/-- What a scan sees, in order, and the number of files it looks into. -/
def sightings (m : Monitor) (c : Circumstances) (stamp : Stamp) : List Sighting × Nat :=
  let walk := m.walker.traverse c.files m.root
  (walk.records.map .noted ++ walk.files.flatMap (m.fileSightings c.files stamp) ++
    m.probeSightings stamp, walk.files.length)

end Monitor

/-- What has been taken in so far. -/
structure Intake where
  ledger : Ledger
  dispatcher : Dispatcher
  /-- The number of findings, repeats included. -/
  raw : Nat
  /-- The findings that were handed to the sinks, oldest first. -/
  accepted : List Finding
  events : List Event

namespace Intake

/-- Nothing taken in yet. -/
def start (ledger : Ledger) (dispatcher : Dispatcher) : Intake :=
  ⟨ledger, dispatcher, 0, [], []⟩

/-- Takes in sightings one after the other, up to the first finding that the dispatcher refuses. That
finding stays in the ledger. -/
def takeAll (around : Surroundings) : Intake → List Sighting → Intake × Option DispatcherClosed
  | s, [] => (s, none)
  | s, .noted record :: rest =>
    takeAll around { s with events := s.events ++ [.logged record] } rest
  | s, .found f :: rest =>
    match s.ledger.accept f with
    | (_, false) => takeAll around { s with raw := s.raw + 1 } rest
    | (ledger, true) =>
      let s := { s with ledger := ledger, raw := s.raw + 1 }
      match s.dispatcher.submit (.finding f) with
      | .error closed => (s, some closed)
      | .ok (dispatcher, jobs) =>
        takeAll around
          { s with
            dispatcher := dispatcher
            accepted := s.accepted ++ [f]
            events := s.events ++ Job.performAll around jobs } rest

end Intake

namespace Monitor

/-- The event of logging a message of the scheduler. -/
def note (level : Level) (message : String) : Event :=
  .log level .scheduler message

/-- The event that opens a scan. -/
def scanOpened (cycle : Nat) (now : Instant) : Event :=
  note .info s!"Performing security scan #{cycle} at {now.inRecord}"

/-- The event that closes a scan. -/
def scanClosed (cycle accepted files : Nat) : Event :=
  if accepted = 0 then
    note .info s!"Scan #{cycle}: no new threats detected in {files} files"
  else note .info s!"Scan #{cycle}: {accepted} new threat(s) in {files} files"

/-- One scan. -/
def runCycle (m : Monitor) (c : Circumstances) : Outcome Report :=
  let cycle := m.cycles + 1
  let (seen, files) := m.sightings c ⟨c.newId, c.now, cycle⟩
  let (taken, refusal) := (Intake.start m.ledger m.dispatcher).takeAll c.around seen
  let m := { m with cycles := cycle, ledger := taken.ledger, dispatcher := taken.dispatcher }
  let events := scanOpened cycle c.now :: taken.events
  match refusal with
  | some _ => ⟨m, events, .error .dispatcherClosed⟩
  | none =>
    { monitor := { m with lastScan := some c.now }
      events := events ++ [scanClosed cycle taken.accepted.length files]
      result := .ok
        { cycle := cycle
          root := m.root
          startedAt := c.now
          finishedAt := c.now
          filesScanned := files
          rawFindings := taken.raw
          suppressed := taken.raw - taken.accepted.length
          findings := taken.accepted } }

/-- One scan, unless another is in progress. -/
def scan (m : Monitor) (c : Circumstances) : Outcome Report :=
  if c.busy then m.refuse .scanInProgress else m.runCycle c

/-- A scan whose failure is only logged; what it yields is not asked for. -/
def guardedScan (m : Monitor) (c : Circumstances) : Monitor × List Event :=
  let o := m.scan c
  match o.result with
  | .ok _ => (o.monitor, o.events)
  | .error .scanInProgress =>
    (o.monitor,
      o.events ++ [note .info "Scheduled scan skipped: previous cycle still running"])
  | .error _ => (o.monitor, o.events ++ [note .error "Scan cycle failed"])

end Monitor

end SourceWatch

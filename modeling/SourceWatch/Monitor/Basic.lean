import SourceWatch.Detector
import SourceWatch.Dispatcher
import SourceWatch.Files.Walk
import SourceWatch.Ledger

/-!
# The monitor

A monitor watches the files below one root. It scans on demand or, while it is running, at intervals.

Main definitions:

* `Probe`: where anomalies outside the files come from.
* `Monitor`: the parts of a monitor and its state.
* `Circumstances`: what surrounds one operation.
* `Report`, `Status`: what a scan and a query yield.
* `MonitorFault`: why an operation fails.
* `Outcome`: the monitor after an operation, the events it caused and its result.
-/

namespace SourceWatch

open Text

/-- Where anomalies outside the files come from. -/
inductive Probe where
  | absent
  | silent
  | static (anomalies : List Anomaly)
  | failing (reason : String)
  deriving DecidableEq

/-- A timer that scans at intervals until its session ends. Time and threads are outside this model: a
timer is armed as long as nobody has told it to end, and each of its scans is an operation. It is armed
also when its interval is longer than a thread can wait for; such a wait fails, so that no scan follows,
and leaves the session as it is. -/
structure Timer where
  session : Nat
  interval : Int
  deriving DecidableEq

/-- A monitor for the files below `root`. -/
structure Monitor where
  root : Path
  walker : Walker
  detector : Detector
  probe : Probe
  ledger : Ledger
  dispatcher : Dispatcher
  /-- Whether the monitor scans at intervals. -/
  running : Bool
  /-- The number of scans that were begun. -/
  cycles : Nat
  /-- The seconds between two scans. -/
  interval : Int
  /-- The end of the latest scan that was completed. -/
  lastScan : Option Instant
  /-- The number of sessions that were opened. -/
  sessions : Nat
  /-- The session that is open. -/
  session : Option Nat
  /-- The timers of open sessions. -/
  timers : List Timer

/-- What surrounds one operation. -/
structure Circumstances where
  files : Folder
  now : Instant
  /-- Whether another scan is in progress all the while. -/
  busy : Bool
  /-- The identifier of the findings that are made. -/
  newId : String
  around : Surroundings

/-- Why an operation fails. -/
inductive MonitorFault where
  | scanInProgress
  | intervalTooSmall
  | dispatcherClosed
  deriving DecidableEq

/-- The wording of a failure. -/
def MonitorFault.message : MonitorFault → String
  | scanInProgress => "A scan cycle is already in progress"
  | intervalTooSmall => "interval_seconds must be at least 1"
  | dispatcherClosed => DispatcherClosed.mk.message

/-- The monitor after an operation, the events that it caused, and its result. -/
structure Outcome (α : Type) where
  monitor : Monitor
  events : List Event
  result : Except MonitorFault α

/-- What a completed scan yields. -/
structure Report where
  cycle : Nat
  root : Path
  startedAt : Instant
  finishedAt : Instant
  filesScanned : Nat
  rawFindings : Nat
  suppressed : Nat
  findings : List Finding
  deriving DecidableEq

/-- The document of a report. -/
def Report.toJson (r : Report) : Json :=
  .record
    [("cycle_id", .nat r.cycle),
      ("target_root", .string r.root.render),
      ("started_at", .string r.startedAt.inDocument),
      ("finished_at", .string r.finishedAt.inDocument),
      ("files_scanned", .nat r.filesScanned),
      ("raw_findings", .nat r.rawFindings),
      ("suppressed", .nat r.suppressed),
      ("findings", .array (r.findings.map Finding.toJson))]

/-- What a query yields. -/
structure Status where
  isRunning : Bool
  cycleCount : Nat
  threatCount : Nat
  interval : Int
  lastScan : Option Instant
  deriving DecidableEq

/-- The document of a status. -/
def Status.toJson (s : Status) : Json :=
  .record
    [("is_running", .bool s.isRunning),
      ("cycle_count", .nat s.cycleCount),
      ("threat_count", .nat s.threatCount),
      ("interval_seconds", .int s.interval),
      ("last_scan_at", .string? (s.lastScan.map Instant.inDocument))]

namespace Monitor

/-- The status of a monitor. -/
def status (m : Monitor) : Status :=
  { isRunning := m.running
    cycleCount := m.cycles
    threatCount := m.ledger.size
    interval := m.interval
    lastScan := m.lastScan }

/-- The keys of the findings in the ledger, oldest first. -/
def history (m : Monitor) : List RepeatKey :=
  m.ledger.entries.map (·.key)

/-- An outcome that leaves the monitor as it is. -/
def refuse {α : Type} (m : Monitor) (fault : MonitorFault) : Outcome α :=
  ⟨m, [], .error fault⟩

end Monitor

end SourceWatch

import SourceWatch.Monitor.Scan

/-!
# Starting, stopping and closing

Main definitions:

* `Monitor.start`, `Monitor.stop`: opening and ending a session of scans at intervals.
* `Monitor.ticks`: scans on behalf of a timer.
* `Monitor.sendTest`: a finding that tests the sinks.
* `Monitor.close`: stopping for good.
* `Action`, `Monitor.perform`: the operations as one step function.
-/

namespace SourceWatch

/-- The message that opens a session. -/
def startAnnouncement : String :=
  "Continuous security monitoring activated for your development environment"

/-- The message that ends a session. -/
def stopAnnouncement : String :=
  "Security monitoring deactivated"

namespace Monitor

/-- Hands an announcement to every sink. -/
def announce (m : Monitor) (around : Surroundings) (message : String) : Outcome Unit :=
  match m.dispatcher.submit (.announcement message) with
  | .error _ => m.refuse .dispatcherClosed
  | .ok (dispatcher, jobs) =>
    ⟨{ m with dispatcher := dispatcher }, Job.performAll around jobs, .ok ()⟩

/-- The monitor with a new session open, at a new interval if one is given. -/
def openSession (m : Monitor) (interval : Option Int) : Monitor :=
  { m with
    interval := interval.getD m.interval
    running := true
    session := some m.sessions
    sessions := m.sessions + 1 }

/-- The monitor with the timer of its open session armed. -/
def armTimer (m : Monitor) : Monitor :=
  match m.session with
  | some session => { m with timers := m.timers ++ [⟨session, m.interval⟩] }
  | none => m

/-- The monitor with its session ended and the timer of the session disarmed. -/
def endSession (m : Monitor) : Monitor :=
  { m with
    running := false
    session := none
    timers := m.timers.filter fun timer => some timer.session ≠ m.session }

/-- Opens a session: announces it, scans at once and arms a timer. A monitor that is running stays as
it is. The opening record writes the interval out, however many digits it has; neither a configuration
nor an argument nor the body of a request can name an interval of more than 4300 digits, for which there
would be no such record. -/
def start (m : Monitor) (c : Circumstances) (interval : Option Int) : Outcome Bool :=
  if m.running then ⟨m, [note .info "Monitoring is already active"], .ok false⟩
  else if interval.any (· < 1) then m.refuse .intervalTooSmall
  else
    let m := m.openSession interval
    let opening := note .info s!"Starting continuous security monitoring (every {m.interval}s)"
    let announced := m.announce c.around startAnnouncement
    match announced.result with
    | .error fault => ⟨announced.monitor, opening :: announced.events, .error fault⟩
    | .ok () =>
      let (m, events) := announced.monitor.guardedScan c
      ⟨m.armTimer, opening :: announced.events ++ events, .ok true⟩

/-- Ends the session. A monitor that is not running stays as it is. -/
def stop (m : Monitor) (c : Circumstances) : Outcome Bool :=
  if !m.running then ⟨m, [note .info "Monitoring is not active"], .ok false⟩
  else
    let announced := m.endSession.announce c.around stopAnnouncement
    { monitor := announced.monitor
      events := note .info "Security monitoring stopped" :: announced.events
      result := announced.result.map fun _ => true }

/-- Scans on behalf of a timer, `count` times. -/
def ticks (m : Monitor) (c : Circumstances) : (count : Nat) → Monitor × List Event
  | 0 => (m, [])
  | count + 1 =>
    let (m, events) := m.guardedScan c
    let (m, more) := m.ticks c count
    (m, events ++ more)

/-- The finding that tests the sinks. -/
def testFinding (m : Monitor) (c : Circumstances) : Finding :=
  { id := c.newId
    category := testCategory
    severity := .medium
    filePath := "test-file.js"
    matchedKeyword := none
    message := "This is a test security alert to verify system functionality"
    detectedAt := c.now
    cycle := m.cycles
    rule := none }

/-- Records a finding that tests the sinks, and hands it to them. -/
def sendTest (m : Monitor) (c : Circumstances) : Outcome Finding :=
  let f := m.testFinding c
  let m := { m with ledger := m.ledger.record f }
  match m.dispatcher.submit (.finding f) with
  | .error _ => m.refuse .dispatcherClosed
  | .ok (dispatcher, jobs) =>
    ⟨{ m with dispatcher := dispatcher }, Job.performAll c.around jobs, .ok f⟩

/-- Stops the monitor and shuts its dispatcher down. -/
def close (m : Monitor) (c : Circumstances) : Outcome Unit :=
  let o := m.stop c
  match o.result with
  | .error fault => ⟨o.monitor, o.events, .error fault⟩
  | .ok _ => ⟨{ o.monitor with dispatcher := o.monitor.dispatcher.shutdown }, o.events, .ok ()⟩

end Monitor

/-! ### The operations as one step function -/

/-- An operation of a monitor. -/
inductive Action where
  | scan
  | start (interval : Option Int)
  | stop
  | tick
  | test
  | close
  deriving DecidableEq

/-- What an operation yields. -/
inductive Answer where
  | report (r : Report)
  | changed (b : Bool)
  | finding (f : Finding)
  | done
  deriving DecidableEq

/-- The outcome with another result. -/
def Outcome.map {α β : Type} (f : α → β) (o : Outcome α) : Outcome β :=
  ⟨o.monitor, o.events, o.result.map f⟩

/-- Carries out an operation. -/
def Monitor.perform (m : Monitor) (c : Circumstances) : Action → Outcome Answer
  | .scan => (m.scan c).map .report
  | .start interval => (m.start c interval).map .changed
  | .stop => (m.stop c).map .changed
  | .tick =>
    let (m, events) := m.guardedScan c
    ⟨m, events, .ok .done⟩
  | .test => (m.sendTest c).map .finding
  | .close => (m.close c).map fun _ => .done

end SourceWatch

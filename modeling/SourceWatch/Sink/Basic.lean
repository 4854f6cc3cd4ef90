import SourceWatch.Sink.TextMessage
import SourceWatch.Sink.Voice

/-!
# Sinks

A sink is handed findings and announcements. Text messages are sent for findings only; an observer
that is mute or plain ignores announcements.

Main definitions:

* `Sink`, `Sink.name`: the sinks and their names.
* `Surroundings`: how the speech command and the text message service behave.
* `Sink.accept`: handing a payload to a sink.
* `SinkFailure`: why a sink fails.
-/

namespace SourceWatch

/-- A receiver of findings and announcements. -/
inductive Sink where
  | observer
  | mute
  | plain
  | log
  | voice (v : Voice)
  | textMessage (m : TextMessenger)
  | failing (reason : String)
  deriving DecidableEq

/-- How the speech command and the text message service behave. -/
structure Surroundings where
  speech : SpeechOutcome
  gateway : GatewayOutcome
  deriving DecidableEq

/-- Surroundings in which everything succeeds. -/
def Surroundings.calm : Surroundings :=
  ⟨.exited 0, .answered 201⟩

/-- Why a sink fails. -/
inductive SinkFailure where
  | speech (failure : SpeechFailure)
  | gateway (failure : GatewayFailure)
  | broken (reason : String)
  deriving DecidableEq

/-- The wording of a failure. -/
def SinkFailure.message : SinkFailure → String
  | speech failure => failure.message
  | gateway failure => failure.message
  | broken reason => reason

namespace Sink

/-- The name of a sink. -/
def name : Sink → String
  | observer | mute => "observer"
  | plain => "plain"
  | log => "log"
  | voice _ => "voice"
  | textMessage _ => "sms"
  | failing _ => "failing"

/-- The level at which a finding is logged. -/
def levelOf : Severity → Level
  | .critical => .critical
  | .high => .error
  | .medium => .warning
  | .low => .info

/-- The event of logging a finding. -/
def logFinding (f : Finding) : Event :=
  .log (levelOf f.severity) .logSink f.recordText

/-- Hands a finding to the sink at place `index`. -/
def send (around : Surroundings) (index : Nat) (f : Finding) :
    Sink → List Event × Option SinkFailure
  | observer | mute | plain => ([.delivered index (.finding f)], none)
  | log => ([logFinding f], none)
  | voice v =>
    let (events, failure) := v.speak around.speech f.utterance
    (events, failure.map .speech)
  | textMessage m =>
    let (events, failure) := m.send around.gateway f
    (events, failure.map .gateway)
  | failing reason => ([], some (.broken reason))

/-- Hands an announcement to the sink at place `index`. -/
def announce (around : Surroundings) (index : Nat) (message : String) :
    Sink → List Event × Option SinkFailure
  | observer => ([.delivered index (.announcement message)], none)
  | mute | plain | textMessage _ => ([], none)
  | log => ([.log .info .logSink message], none)
  | voice v =>
    let (events, failure) := v.speak around.speech message
    (events, failure.map .speech)
  | failing reason => ([], some (.broken reason))

/-- Hands a payload to the sink at place `index`. -/
def accept (around : Surroundings) (index : Nat) (s : Sink) :
    Payload → List Event × Option SinkFailure
  | .finding f => s.send around index f
  | .announcement message => s.announce around index message

end Sink

end SourceWatch

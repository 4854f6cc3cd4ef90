import SourceWatch.Finding
import SourceWatch.Log

/-!
# Events

Whatever the program does to the world around it is an event, and every operation tells the events it
causes in their order.

Main definitions:

* `Payload`: what a sink is handed.
* `TextMessageRequest`, `SpeechRun`: a request to the text message service, a run of the speech command.
* `Event`: the events; `records`, `deliveries`, `requests` and `speechRuns` select one kind.
-/

namespace SourceWatch

/-- What a sink is handed: a finding, or a message about the monitor itself. -/
inductive Payload where
  | finding (f : Finding)
  | announcement (message : String)
  deriving DecidableEq

/-- A request to the text message service. -/
structure TextMessageRequest where
  method : String
  url : String
  authorization : String
  contentType : String
  body : String
  deriving DecidableEq

/-- A run of the speech command. -/
structure SpeechRun where
  argv : List String
  timeout : Int
  deriving DecidableEq

/-- Something that the program does to the world around it. -/
inductive Event where
  /-- A record is written to the log. -/
  | logged (record : LogRecord)
  /-- An observer is handed a payload; `sink` is its place among the sinks. -/
  | delivered (sink : Nat) (payload : Payload)
  /-- A request is sent to the text message service. -/
  | posted (request : TextMessageRequest)
  /-- The speech command is run. -/
  | spoken (run : SpeechRun)
  deriving DecidableEq

namespace Event

/-- The event of writing a record. -/
def log (level : Level) (component : Component) (message : String) : Event :=
  .logged ⟨level, component, message⟩

/-- The records among events. -/
def records (events : List Event) : List LogRecord :=
  events.filterMap fun
    | logged record => some record
    | _ => none

/-- The deliveries among events. -/
def deliveries (events : List Event) : List (Nat × Payload) :=
  events.filterMap fun
    | delivered sink payload => some (sink, payload)
    | _ => none

/-- The requests among events. -/
def requests (events : List Event) : List TextMessageRequest :=
  events.filterMap fun
    | posted request => some request
    | _ => none

/-- The runs of the speech command among events. -/
def speechRuns (events : List Event) : List SpeechRun :=
  events.filterMap fun
    | spoken run => some run
    | _ => none

end Event

end SourceWatch

/-!
# Log records

Main definitions:

* `Level`: the five levels in use, and their ranks.
* `Component`: the parts of the program that write records, and their labels.
* `LogRecord`: a record.
* `levelRank`: the rank that a level name stands for.
-/

namespace SourceWatch

/-- The level of a log record. -/
inductive Level where
  | debug
  | info
  | warning
  | error
  | critical
  deriving DecidableEq

/-- The rank of a level; a record is shown if its rank reaches the chosen one. -/
def Level.rank : Level → Nat
  | debug => 10
  | info => 20
  | warning => 30
  | error => 40
  | critical => 50

/-- The written form of a level. -/
def Level.label : Level → String
  | debug => "DEBUG"
  | info => "INFO"
  | warning => "WARNING"
  | error => "ERROR"
  | critical => "CRITICAL"

/-- The part of the program that writes a record. -/
inductive Component where
  | commandLine
  | configuration
  | detector
  | dispatcher
  | walker
  | service
  | monitor
  | scheduler
  | logSink
  | smsSink
  | voiceSink
  deriving DecidableEq

/-- The written form of a component. -/
def Component.label : Component → String
  | commandLine => "cli"
  | configuration => "config"
  | detector => "detector"
  | dispatcher => "dispatcher"
  | walker => "file_walker"
  | service => "main"
  | monitor => "monitor"
  | scheduler => "scheduler"
  | logSink => "sinks.log"
  | smsSink => "sinks.sms"
  | voiceSink => "sinks.voice"

/-- A log record. -/
structure LogRecord where
  level : Level
  component : Component
  message : String
  deriving DecidableEq

/-- A record as a line of the log. -/
def LogRecord.line (r : LogRecord) : String :=
  s!"{r.level.label}:security_monitor.{r.component.label}:{r.message}"

/-! ### Level names -/

/-- The upper-case form of a character of a level name. The dotless `ı` and the long `ſ` share theirs
with `i` and `s`. -/
def upperLetter (c : Char) : Char :=
  if c = 'ı' then 'I' else if c = 'ſ' then 'S' else c.toUpper

/-- The ranks by name. -/
def namedRanks : List (String × Nat) :=
  [("CRITICAL", 50), ("FATAL", 50), ("ERROR", 40), ("WARNING", 30), ("WARN", 30), ("INFO", 20),
    ("DEBUG", 10), ("NOTSET", 0)]

/-- The rank that a level name stands for, whatever its case; any other name counts as `INFO`. -/
def levelRank (name : String) : Nat :=
  (namedRanks.lookup (String.ofList (name.toList.map upperLetter))).getD Level.info.rank

end SourceWatch

import SourceWatch.CommandLine.Arguments
import SourceWatch.Json.Printer
import SourceWatch.Monitor.Create

/-!
# Running the program

Main definitions:

* `Line`: what a run writes or causes, in order; `standardOutput`, `standardError` and `eventsOf` select.
* `Ending`, `Ending.exitCode`: how a run ends.
* `Run`, `run`: a run with given arguments.
-/

namespace SourceWatch.CommandLine

/-- What a run writes or causes. -/
inductive Line where
  | printed (text : String)
  | complained (text : String)
  | happened (event : Event)
  deriving DecidableEq

/-- How a run ends: with an exit code, or by a failure that is not foreseen. -/
inductive Ending where
  | exited (code : Nat)
  | escaped (fault : SetupFault)

/-- The exit code of the program. A failure that is not foreseen ends the program with code 1, as one that
a message tells does; what is shown of it beside the lines of the run is left out. -/
def Ending.exitCode : Ending → Nat
  | exited code => code
  | escaped _ => 1

/-- A run: what it writes and causes, from which rank on records are shown, and how it ends. -/
structure Run where
  rank : Nat
  lines : List Line
  ending : Ending

/-- The text that lines print. -/
def standardOutput (lines : List Line) : String :=
  String.join (lines.map fun
    | .printed text => text
    | _ => "")

/-- The text of one line among the complaints and the records from a rank on. -/
def Line.errorText (rank : Nat) : Line → String
  | .complained text => text
  | .happened (.logged record) => if rank ≤ record.level.rank then record.line ++ "\n" else ""
  | _ => ""

/-- The complaints and the records from a rank on. -/
def standardError (rank : Nat) (lines : List Line) : String :=
  String.join (lines.map (Line.errorText rank))

/-- The events among lines. -/
def eventsOf (lines : List Line) : List Event :=
  lines.filterMap fun
    | .happened event => some event
    | _ => none

/-- Events as lines. -/
def happenings (events : List Event) : List Line :=
  events.map .happened

/-- A document as a line. -/
def document (value : Json) : Line :=
  .printed (value.pretty ++ "\n")

/-- The run that an early stop makes. -/
def stopped : Stop → Run
  | .help about => ⟨0, [.printed (help about)], .exited 0⟩
  | .version => ⟨0, [.printed versionText], .exited 0⟩
  | .complaint about text =>
    ⟨0, [.complained (usage about ++ s!"{title about}: error: {text}\n")], .exited 2⟩

/-- The record that announces the end of a session. -/
def shutdownRecord : LogRecord :=
  ⟨.info, .commandLine, "Shutting down security monitor..."⟩

/-- What a command writes and causes on a monitor that was just made, with the exit code. A session is
interrupted before its first timer. -/
def execute (m : Monitor) (c : Circumstances) (interval : Option Int) :
    Command → List Line × Nat × Monitor
  | .scan =>
    let o := m.scan c
    match o.result with
    | .ok report => (happenings o.events ++ [document report.toJson], 0, o.monitor)
    | .error fault =>
      (happenings o.events ++ [.complained s!"Busy: {fault.message}\n"], 2, o.monitor)
  | .start =>
    let o := m.start c interval
    (happenings (o.events ++ [.logged shutdownRecord]), 0, o.monitor)
  | .stop =>
    let o := m.stop c
    (happenings o.events, 0, o.monitor)
  | .status => ([document m.status.toJson], 0, m)
  | .test =>
    let o := m.sendTest c
    match o.result with
    | .ok f => (happenings o.events ++ [document f.toJson], 0, o.monitor)
    | .error _ => (happenings o.events, 0, o.monitor)

/-- The overrides that the arguments make. -/
def overrides (root : Option String) : List (Text.CodeText × Json) :=
  [(Text.CodeText.ofString "target_root", .string? root)]

/-- The run of a command that was read. The monitor is closed at its end. -/
def runCommand (c : Circumstances) (env : Environment) (voice : Voice) (r : Reading)
    (command : Command) : Run :=
  let rank := env.chosenRank r.logLevel
  match Monitor.load c.files env voice r.config (overrides r.root) with
  | (events, .error fault) =>
    if fault.isReported then
      ⟨rank, happenings events ++ [.complained s!"Error: {fault.message}\n"], .exited 1⟩
    else ⟨rank, happenings events, .escaped fault⟩
  | (events, .ok m) =>
    let (lines, code, m) := execute m c r.interval command
    ⟨rank, happenings events ++ lines ++ happenings (m.close c).events, .exited code⟩

/-- A run with given arguments. Without a command it prints the help. -/
def run (c : Circumstances) (env : Environment) (voice : Voice) (arguments : List String) : Run :=
  match parse arguments with
  | .error stop => stopped stop
  | .ok r =>
    match r.command with
    | none => stopped (.help none)
    | some command => runCommand c env voice r command

end SourceWatch.CommandLine

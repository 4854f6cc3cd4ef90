import SourceWatch.Alert
import SourceWatch.Sink.Event
import SourceWatch.Text.Quoted

/-!
# Spoken alerts

The voice sink runs a speech command if there is one, and writes what it would say to the log
otherwise.

Main definitions:

* `Voice`, `Voice.find`: the speech command and its time limit.
* `SpeechOutcome`: how a run of the command ends.
* `Voice.speak`: saying a message.
-/

namespace SourceWatch

open Text

/-- How a run of the speech command ends: with an exit status, negative for a signal, or at its time
limit. -/
inductive SpeechOutcome where
  | exited (status : Int)
  | timedOut
  deriving DecidableEq

/-- A run of the speech command that failed. -/
inductive SpeechFailure where
  | status (argv : List String) (status : Int)
  | timeout (argv : List String) (seconds : Int)
  deriving DecidableEq

/-- The names of the signals. -/
def signalNames : List (Nat × String) :=
  [(1, "SIGHUP"), (2, "SIGINT"), (3, "SIGQUIT"), (4, "SIGILL"), (5, "SIGTRAP"), (6, "SIGABRT"),
    (7, "SIGBUS"), (8, "SIGFPE"), (9, "SIGKILL"), (10, "SIGUSR1"), (11, "SIGSEGV"), (12, "SIGUSR2"),
    (13, "SIGPIPE"), (14, "SIGALRM"), (15, "SIGTERM"), (16, "SIGSTKFLT"), (17, "SIGCHLD"),
    (18, "SIGCONT"), (19, "SIGSTOP"), (20, "SIGTSTP"), (21, "SIGTTIN"), (22, "SIGTTOU"),
    (23, "SIGURG"), (24, "SIGXCPU"), (25, "SIGXFSZ"), (26, "SIGVTALRM"), (27, "SIGPROF"),
    (28, "SIGWINCH"), (29, "SIGIO"), (30, "SIGPWR"), (31, "SIGSYS"), (34, "SIGRTMIN"),
    (64, "SIGRTMAX")]

/-- A command line as a list of quoted words. -/
def quoteWords (words : List String) : String :=
  "[" ++ ", ".intercalate (words.map quote) ++ "]"

/-- The wording of a failure. -/
def SpeechFailure.message : SpeechFailure → String
  | status argv code =>
    if code < 0 then
      match signalNames.lookup code.natAbs with
      | some name => s!"Command '{quoteWords argv}' died with <Signals.{name}: {code.natAbs}>."
      | none => s!"Command '{quoteWords argv}' died with unknown signal {code.natAbs}."
    else s!"Command '{quoteWords argv}' returned non-zero exit status {code}."
  | timeout argv seconds => s!"Command '{quoteWords argv}' timed out after {seconds} seconds"

/-- The speech command, if there is one, and its time limit in seconds. -/
structure Voice where
  command : Option String
  timeout : Int
  deriving DecidableEq

namespace Voice

/-- The time limit unless given otherwise. -/
def defaultTimeout : Int := 30

/-- The voice with a given command; without one, the command `installed` is used on a platform that
speaks. -/
def find (command : Option String) (platform : String) (installed : Option String) (timeout : Int) :
    Voice :=
  ⟨command.or (if platform = "Darwin" then installed else none), timeout⟩

/-- The voice that can only write to the log. -/
def silent : Voice :=
  ⟨none, defaultTimeout⟩

/-- Whether there is a speech command. -/
def isAvailable (v : Voice) : Bool :=
  v.command.isSome

/-- Says a message. -/
def speak (v : Voice) (outcome : SpeechOutcome) (message : String) :
    List Event × Option SpeechFailure :=
  match v.command with
  | none => ([.log .info .voiceSink s!"ALERT: {message}"], none)
  | some command =>
    let argv := [command, message]
    let failure := match outcome with
      | .exited status => if status = 0 then none else some (.status argv status)
      | .timedOut => some (.timeout argv v.timeout)
    ([.spoken ⟨argv, v.timeout⟩], failure)

end Voice

end SourceWatch

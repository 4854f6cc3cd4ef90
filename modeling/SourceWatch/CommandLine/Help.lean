/-!
# Help texts

Main definitions:

* `Command`: the commands, `Command.name` and `Command.ofName?` their names.
* `usage`, `help`: the texts about the program and about its commands.
* `versionText`: the text about the version.
-/

namespace SourceWatch.CommandLine

/-- A command of the program. -/
inductive Command where
  | scan
  | start
  | stop
  | status
  | test
  deriving DecidableEq

/-- The name of a command. -/
def Command.name : Command → String
  | scan => "scan"
  | start => "start"
  | stop => "stop"
  | status => "status"
  | test => "test"

/-- All commands in the order in which they are listed. -/
def Command.all : List Command :=
  [.scan, .start, .stop, .status, .test]

/-- The command with a given name. -/
def Command.ofName? (name : String) : Option Command :=
  Command.all.find? (·.name = name)

/-- The name of the program. -/
def programName : String :=
  "security-monitor"

/-- The text about the version. -/
def versionText : String :=
  programName ++ " 0.1.0\n"

/-- The name of the program, or of one of its commands. -/
def title : Option Command → String
  | none => programName
  | some command => programName ++ " " ++ command.name

/-- How the program, or one of its commands, is called. -/
def usage : Option Command → String
  | none =>
    "usage: security-monitor [-h] [--version] [--root ROOT] [--config CONFIG]\n" ++
    "                        [--log-level LOG_LEVEL]\n" ++
    "                        \x7bscan,start,stop,status,test\x7d ...\n"
  | some .start => s!"usage: {title (some .start)} [-h] [interval]\n"
  | some command => s!"usage: {title (some command)} [-h]\n"

/-- The section about options that every command has. -/
def commandOptions : String :=
  "options:\n  -h, --help  show this help message and exit\n"

/-- The help about the program, or about one of its commands. -/
def help : Option Command → String
  | none =>
    usage none ++
    "\nContinuous security monitor - scan source trees for suspicious keywords,\n" ++
    "hardcoded credentials and dangerous execution calls.\n" ++
    "\npositional arguments:\n" ++
    "  \x7bscan,start,stop,status,test\x7d\n" ++
    "                        Available commands\n" ++
    "    scan                Perform a single scan cycle and print the report.\n" ++
    "    start               Start continuous monitoring until interrupted.\n" ++
    "    stop                Stop monitoring.\n" ++
    "    status              Show monitor status.\n" ++
    "    test                Send a test alert through every sink.\n" ++
    "\noptions:\n" ++
    "  -h, --help            show this help message and exit\n" ++
    "  --version             show program's version number and exit\n" ++
    "  --root ROOT           Target directory to monitor (default: current\n" ++
    "                        directory).\n" ++
    "  --config CONFIG       Path to a JSON config file (default:\n" ++
    "                        $SECURITY_MONITOR_CONFIG).\n" ++
    "  --log-level LOG_LEVEL\n" ++
    "                        Logging level (default: $SECURITY_MONITOR_LOG_LEVEL or\n" ++
    "                        INFO).\n" ++
    "\nExample: security-monitor --root ./my-project start 30\n"
  | some .start =>
    usage (some .start) ++
    "\npositional arguments:\n" ++
    "  interval    Seconds between scans, at least 1 (default: 60).\n\n" ++
    commandOptions
  | some command => usage (some command) ++ "\n" ++ commandOptions

end SourceWatch.CommandLine

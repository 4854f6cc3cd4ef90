import SourceWatch.CommandLine.Run
import Std.Time.DateTime.Timestamp

/-!
# The program

The outer layer of the command line: it takes a picture of the folder that it runs in, hands it to
`CommandLine.run`, and writes what the run prints. A session goes on until the program is interrupted.
Speech and text messages need programs and connections that are not available here, so the voice is
silent and the text message service counts as unreachable.
-/

namespace SourceWatch.Main

/-- A folder or a file by its place below the folder that the program runs in. -/
def placeBelow (place : String) (name : String) : String :=
  if place = "." then name else place ++ "/" ++ name

/-- The target of a link, seen from a folder that lies `depth` levels below `top`, when the link leads to
`real`. A link that leads out of `top` is taken to lead nowhere. -/
def linkTarget (top real : String) (depth : Nat) : String :=
  if real = top then "/".intercalate ("." :: List.replicate depth "..")
  else if real.startsWith (top ++ "/") then
    "/".intercalate (List.replicate depth ".." ++ [(real.drop (top.length + 1)).toString])
  else "/nowhere"

/-- What stands at a place. Entries that cannot be read are left out. -/
partial def capture (top place : String) (depth : Nat) : IO Folder := do
  let entries ← (System.mkFilePath [place]).readDir
  let names := (entries.map (·.fileName)).toList.mergeSort (fun a b => !(b < a))
  names.foldlM (fun folder name => do
    let inner := placeBelow place name
    try
      let about ← (System.mkFilePath [inner]).symlinkMetadata
      match about.type with
      | .dir => return folder ++ [(name, .folder (← capture top inner (depth + 1)))]
      | .file => return folder ++ [(name, .file (← IO.FS.readBinFile inner).toList)]
      | .symlink =>
        let real ← try (do return (← IO.FS.realPath inner).toString) catch _ => pure ""
        return folder ++ [(name, .link (linkTarget top real depth))]
      | .other => return folder
    catch _ => return folder) []

/-- The environment variables that are in use. -/
def environment : IO Environment := do
  let names := Environment.configVariable :: Environment.levelVariable :: Credentials.variableNames
  let values ← names.mapM fun name => do
    return (← IO.getEnv name).map fun value => (name, value)
  return values.filterMap id

/-- The present point in time. -/
def now : IO Instant := do
  let stamp ← Std.Time.Timestamp.now
  return ⟨stamp.toNanosecondsSinceUnixEpoch.val / 1000⟩

/-- A random identifier of version 4. -/
def freshId : IO String := do
  let bytes := (← IO.getRandomBytes 16).toList
  let marked := bytes.zipIdx.map fun entry =>
    if entry.2 = 6 then entry.1 % 16 + 64 else if entry.2 = 8 then entry.1 % 64 + 128 else entry.1
  let digits := marked.flatMap fun b => Text.hexDigits 2 b.toNat
  let group (start count : Nat) : String := String.ofList ((digits.drop start).take count)
  return "-".intercalate [group 0 8, group 8 4, group 12 4, group 16 4, group 20 12]

/-- What surrounds the next operation. -/
def circumstances : IO Circumstances := do
  let top := (← IO.FS.realPath ".").toString
  return ⟨← capture top "." 0, ← now, false, ← freshId,
    ⟨.exited 0, .unreachable "no connection is available"⟩⟩

/-- Writes lines, and the records from a rank on. -/
def write (rank : Nat) (lines : List CommandLine.Line) : IO Unit := do
  let output ← IO.getStdout
  let errors ← IO.getStderr
  for line in lines do
    output.putStr (CommandLine.standardOutput [line])
    output.flush
    errors.putStr (line.errorText rank)

/-- Scans at intervals until the program is interrupted. -/
partial def watch (rank : Nat) (m : Monitor) : IO Unit := do
  IO.sleep (UInt32.ofNat (min (1000 * m.interval.toNat) 4294967295))
  let (m, events) := m.ticks (← circumstances) 1
  write rank (CommandLine.happenings events)
  watch rank m

/-- Runs a session. -/
def session (c : Circumstances) (env : Environment) (m : Monitor) (events : List Event)
    (r : CommandLine.Reading) : IO UInt32 := do
  let rank := env.chosenRank r.logLevel
  let o := m.start c r.interval
  write rank (CommandLine.happenings (events ++ o.events))
  watch rank o.monitor
  return 0

/-- Runs the program with given arguments. -/
def runWith (arguments : List String) : IO UInt32 := do
  let c ← circumstances
  let env ← environment
  let run := CommandLine.run c env .silent arguments
  let finish : IO UInt32 := do
    write run.rank run.lines
    if let .escaped fault := run.ending then (← IO.getStderr).putStrLn fault.message
    return UInt32.ofNat run.ending.exitCode
  match CommandLine.parse arguments with
  | .ok r =>
    if r.command = some .start then
      match Monitor.load c.files env .silent r.config (CommandLine.overrides r.root) with
      | (events, .ok m) => session c env m events r
      | _ => finish
    else finish
  | .error _ => finish

end SourceWatch.Main

/-- The program. -/
def main (arguments : List String) : IO UInt32 :=
  SourceWatch.Main.runWith arguments

import SourceWatch.Config.Basic
import SourceWatch.Environment
import SourceWatch.Json.Reader
import SourceWatch.Schema.Report
import SourceWatch.Text.Newline

/-!
# Loading the configuration

The configuration comes from a JSON file, if one is named by the caller or by the environment, and from
overrides that take the place of what the file gives.

Main definitions:

* `ConfigFault`: why a configuration cannot be loaded; `ConfigFault.isReported` tells the causes that
  are reported as an invalid configuration from those that are not foreseen.
* `Config.readFields`: the fields that a file gives.
* `Config.load`: the configuration.
-/

namespace SourceWatch

open Text

/-- Why a configuration cannot be loaded. -/
inductive ConfigFault where
  | notFound (path : String)
  | unreadable (path : String) (fault : FileFault)
  | malformed (path : String) (message : String)
  | notObject (path : String) (typeName : String)
  | invalid (issues : List Issue)
  | nulInPath
  | undecodable (m : Utf8.Malformed)
  | tooManyDigits (message : String)
  | tooDeep (message : String)

namespace ConfigFault

/-- Whether a cause is reported as an invalid configuration. -/
def isReported : ConfigFault → Bool
  | notFound _ | unreadable .. | malformed .. | notObject .. | invalid _ => true
  | nulInPath | undecodable _ | tooManyDigits _ | tooDeep _ => false

/-- The wording of a cause. -/
def message : ConfigFault → String
  | notFound path => s!"Config file not found: {path}"
  | unreadable path fault => s!"Error reading config file {path}: {fault.report path}"
  | malformed path message => s!"Malformed JSON in config file {path}: {message}"
  | notObject path typeName => s!"Config file must be a JSON object, got {typeName}: {path}"
  | invalid issues => "Invalid configuration: " ++ reportIssues "MonitorConfig" issues
  | nulInPath => FileFault.embeddedNul.text
  | undecodable m => m.message
  | tooManyDigits message => message
  | tooDeep message => message

end ConfigFault

namespace Config

/-- The fields that the text of the file at `path` gives. -/
def parseFields (path : String) (cs : List Char) : Except ConfigFault (List (CodeText × Json)) :=
  match Json.read cs with
  | .ok (.object members) => .ok members
  | .ok other => .error (.notObject path other.typeName)
  | .error fault =>
    let message := fault.message cs
    match fault with
    | .malformed .. => .error (.malformed path message)
    | .tooManyDigits _ => .error (.tooManyDigits message)
    | .tooDeep _ => .error (.tooDeep message)

/-- The fields that the file at `path` gives. -/
def readFields (top : Folder) (path : String) : Except ConfigFault (List (CodeText × Json)) :=
  match top.readFile path with
  | .error .missing => .error (.notFound path)
  | .error .embeddedNul => .error .nulInPath
  | .error fault => .error (.unreadable path fault)
  | .ok bytes =>
    match Utf8.decode bytes with
    | .error m => .error (.undecodable m)
    | .ok cs => parseFields path (unifyNewlines cs)

/-- Fields after overrides take their places; an override that is `null` is none. -/
def override (fields overrides : List (CodeText × Json)) : List (CodeText × Json) :=
  overrides.foldl (fun fields o =>
    match o.2 with
    | .null => fields
    | value => Association.put o.1 value fields) fields

/-- The path of the file to load: the one that the caller names, or else the environment. -/
def chosenPath (env : Environment) (path : Option String) : Option String :=
  (path.filter (· ≠ "")).or (env.nonempty? Environment.configVariable)

/-- The settings that fields and overrides describe. -/
def ofOverridden (fields overrides : List (CodeText × Json)) : Except ConfigFault Config :=
  (ofFields (override fields overrides)).toExcept.mapError .invalid

/-- The configuration, with the records that loading it writes. -/
def load (top : Folder) (env : Environment) (path : Option String)
    (overrides : List (CodeText × Json)) : List LogRecord × Except ConfigFault Config :=
  match chosenPath env path with
  | none => ([], ofOverridden [] overrides)
  | some path =>
    ([⟨.info, .configuration, s!"Loading config from {path}"⟩],
      match readFields top path with
      | .error fault => .error fault
      | .ok fields => ofOverridden fields overrides)

end Config

end SourceWatch

import SourceWatch.Config.Load
import SourceWatch.Monitor.Lifecycle

/-!
# Making a monitor

A monitor is made from its configuration. Its target root must be a folder, or a link to one.

Main definitions:

* `CreationFault`: why a monitor cannot be made.
* `defaultSinks`: the sinks that a configuration asks for.
* `Monitor.create`: the monitor of a configuration.
* `Monitor.load`: the monitor of the configuration that is loaded.
-/

namespace SourceWatch

open Text

/-- Why a monitor cannot be made. -/
inductive CreationFault where
  | rootMissing (root : Path)
  | rootNotFolder (root : Path)
  | rootUnreadable (root : Path) (fault : FileFault)
  | ledger (fault : LedgerFault)
  deriving DecidableEq

namespace CreationFault

/-- The wording of a cause. -/
def message : CreationFault → String
  | rootMissing root => s!"Target root does not exist: {root.render}"
  | rootNotFolder root => s!"Target root is not a directory: {root.render}"
  | rootUnreadable root fault => fault.report root.render
  | ledger fault => fault.message

/-- Whether a cause lies in the target root and is reported as such. -/
def isRootFault : CreationFault → Bool
  | rootMissing _ | rootNotFolder _ => true
  | _ => false

end CreationFault

/-- The strings among texts; a text with a lone surrogate names nothing that exists. -/
def stringsOf (list : List CodeText) : List String :=
  list.filterMap CodeText.toString?

namespace Config

/-- The target root as a path. -/
def root (config : Config) : Path :=
  Path.parse config.targetRoot.shown

/-- Whether the target root is a folder. -/
def checkRoot (config : Config) (files : Folder) : Except CreationFault Unit :=
  match config.targetRoot.toString? with
  | none => .error (.rootMissing config.root)
  | some _ =>
    match files.resolve config.root.render with
    | .ok (.folder ..) => .ok ()
    | .ok (.file _) => .error (.rootNotFolder config.root)
    | .error .nameTooLong => .error (.rootUnreadable config.root .nameTooLong)
    | .error _ => .error (.rootMissing config.root)

/-- The catalog of a configuration. -/
def catalog (config : Config) : Catalog :=
  .build (stringsOf config.keywords)
    (config.keywordSeverity.filterMap fun entry => entry.1.toString?.map (·, entry.2))

end Config

/-- The sinks that a configuration asks for, with the event of finding the credentials for text
messages incomplete. -/
def defaultSinks (config : Config) (env : Environment) (voice : Voice) : List Event × List Sink :=
  let spoken := if config.voiceEnabled then [Sink.voice voice] else []
  let (events, texted) :=
    if config.smsEnabled then
      match Credentials.ofEnvironment env with
      | .ok credentials =>
        ([], [Sink.textMessage ⟨credentials, TextMessenger.defaultService⟩])
      | .error names => ([Event.log .info .monitor (Credentials.incomplete names)], [])
    else ([], [])
  (events, .log :: spoken ++ texted)

namespace Monitor

/-- The monitor of a configuration, with the given sinks or else the ones it asks for. -/
def create (config : Config) (files : Folder) (env : Environment) (voice : Voice)
    (sinks : Option (List Sink)) (probe : Probe) : List Event × Except CreationFault Monitor :=
  match config.checkRoot files, Ledger.create config.historyLimit config.window with
  | .error fault, _ => ([], .error fault)
  | .ok (), .error fault => ([], .error (.ledger fault))
  | .ok (), .ok ledger =>
    let (events, sinks) := match sinks with
      | some sinks => ([], sinks)
      | none => defaultSinks config env voice
    let dispatcher := Dispatcher.ofSinks sinks false
    let ready :=
      s!"Monitor ready for {config.root.render} with sinks: {quoteWords dispatcher.sinkNames}"
    (events ++ [.log .debug .monitor ready],
      .ok
        { root := config.root
          walker := .ofLists (stringsOf config.ignored) (stringsOf config.extensions)
          detector := .ofCatalog config.catalog config.maxFileBytes
          probe := probe
          ledger := ledger
          dispatcher := dispatcher
          running := false
          cycles := 0
          interval := config.interval
          lastScan := none
          sessions := 0
          session := none
          timers := [] })

end Monitor

/-- Why no monitor can be made from the configuration that is to be loaded. -/
inductive SetupFault where
  | config (fault : ConfigFault)
  | creation (fault : CreationFault)

namespace SetupFault

/-- The wording of a cause. -/
def message : SetupFault → String
  | config fault => fault.message
  | creation fault => fault.message

/-- Whether a cause is reported to the user of the command line. -/
def isReported : SetupFault → Bool
  | config fault => fault.isReported
  | creation fault => fault.isRootFault

end SetupFault

/-- The monitor of the configuration that is loaded, with the events of loading and making it. -/
def Monitor.load (files : Folder) (env : Environment) (voice : Voice) (path : Option String)
    (overrides : List (CodeText × Json)) : List Event × Except SetupFault Monitor :=
  match Config.load files env path overrides with
  | (records, .error fault) => (records.map .logged, .error (.config fault))
  | (records, .ok config) =>
    let (events, made) := Monitor.create config files env voice none .absent
    (records.map .logged ++ events, made.mapError .creation)

end SourceWatch

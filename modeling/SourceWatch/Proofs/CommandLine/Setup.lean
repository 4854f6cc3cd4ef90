import SourceWatch.CommandLine.Run
import SourceWatch.Proofs.Config.Load

/-!
# Setting a run up

Before a command is carried out its configuration is loaded and a monitor is made.  If this fails for a cause that is
reported, the run ends with exit code 1 and the message as its last complaint; any other cause escapes, which ends the
run with the same code and without a complaint.

Main definitions:

* `Refuses`: runs that a message ends;
* `Breaks`: runs that a failure ends which is not foreseen;
* `ConfigurationFaults`: when a configuration cannot be loaded, and how a run ends then.

Main statements:

* `run_of_parse`: the run of arguments that make a request;
* `runCommand_of_reported`, `runCommand_of_unreported`: runs that cannot be set up;
* `refuses_of_reported`, `breaks_of_unreported`: how they end;
* `runCommand_of_load`: the run of a command on the monitor that was made;
* `configuration_faults`.
-/

namespace SourceWatch.CommandLine

open Text

/-! ### What lines print and cause -/

section Lines

variable {event : Event} {events : List Event} {lines : List Line}

@[simp]
theorem standardOutput_append (before behind : List Line) :
    standardOutput (before ++ behind) = standardOutput before ++ standardOutput behind := by
  rw [standardOutput, List.map_append, String.join_append]
  rfl

/-- Events print nothing. -/
@[simp]
theorem standardOutput_happenings (events : List Event) : standardOutput (happenings events) = "" := by
  induction events with
  | nil => rfl
  | cons event events ih =>
    rw [happenings, standardOutput] at ih ⊢
    rw [List.map_cons, List.map_cons, String.join_cons, ih]
    rfl

@[simp]
theorem standardOutput_document (value : Json) : standardOutput [document value] = value.pretty ++ "\n" := by
  rw [standardOutput, List.map_singleton, String.join_cons, String.join_nil, String.append_empty]
  rfl

@[simp]
theorem standardOutput_complained (text : String) : standardOutput [.complained text] = "" :=
  rfl

theorem standardError_append (rank : ℕ) (before behind : List Line) :
    standardError rank (before ++ behind) = standardError rank before ++ standardError rank behind := by
  rw [standardError, List.map_append, String.join_append]
  rfl

theorem standardError_complained (rank : ℕ) (text : String) : standardError rank [.complained text] = text := by
  rw [standardError, List.map_singleton, String.join_cons, String.join_nil, String.append_empty]
  rfl

@[simp]
theorem eventsOf_append (before behind : List Line) :
    eventsOf (before ++ behind) = eventsOf before ++ eventsOf behind :=
  List.filterMap_append

@[simp]
theorem eventsOf_happenings (events : List Event) : eventsOf (happenings events) = events := by
  rw [eventsOf, happenings, List.filterMap_map]
  exact List.filterMap_some

@[simp]
theorem eventsOf_document (value : Json) : eventsOf [document value] = [] :=
  rfl

@[simp]
theorem eventsOf_complained (text : String) : eventsOf [.complained text] = [] :=
  rfl

end Lines

/-! ### Runs -/

variable {c : Circumstances} {env : Environment} {voice : Voice} {arguments : List String} {r : Reading}
  {command : Command} {events : List Event} {fault : SetupFault} {m : Monitor}

theorem ok_of_toOption {ε α : Type} {result : Except ε α} {a : α} (h : result.toOption = some a) :
    result = .ok a := by
  cases result with
  | error => cases h
  | ok => exact congrArg Except.ok (Option.some.inj h)

/-- The run of arguments that make a request. -/
theorem run_of_parse (hparse : parse arguments = .ok r) (hcommand : r.command = some command) :
    run c env voice arguments = runCommand c env voice r command := by
  unfold run
  rw [hparse]
  simp only [hcommand]

/-- A cause that is reported ends the run. -/
theorem runCommand_of_reported
    (hload : Monitor.load c.files env voice r.config (overrides r.root) = (events, .error fault))
    (hreported : fault.isReported = true) :
    runCommand c env voice r command =
      ⟨env.chosenRank r.logLevel, happenings events ++ [.complained s!"Error: {fault.message}\n"], .exited 1⟩ := by
  unfold runCommand
  simp only [hload, hreported, if_true]

/-- Any other cause escapes. -/
theorem runCommand_of_unreported
    (hload : Monitor.load c.files env voice r.config (overrides r.root) = (events, .error fault))
    (hunreported : fault.isReported = false) :
    runCommand c env voice r command = ⟨env.chosenRank r.logLevel, happenings events, .escaped fault⟩ := by
  unfold runCommand
  simp only [hload, hunreported]
  rfl

/-- The run of a command on the monitor that was made. -/
theorem runCommand_of_load (hload : Monitor.load c.files env voice r.config (overrides r.root) = (events, .ok m)) :
    runCommand c env voice r command =
      ⟨env.chosenRank r.logLevel,
        happenings events ++ (execute m c r.interval command).1 ++
          happenings ((execute m c r.interval command).2.2.close c).events,
        .exited (execute m c r.interval command).2.1⟩ := by
  unfold runCommand
  rw [hload]

/-! ### Configurations that cannot be loaded -/

/-- **A run that a message ends:** exit code 1, nothing printed, and the message as the last complaint. -/
structure Refuses (run : Run) (message : String) : Prop where
  ending : run.ending = .exited 1
  output : standardOutput run.lines = ""
  complaint : ∃ before, standardError run.rank run.lines = before ++ s!"Error: {message}\n"

/-- **A run that a failure ends which is not foreseen:** nothing printed, and no complaint. -/
structure Breaks (run : Run) (fault : SetupFault) : Prop where
  ending : run.ending = .escaped fault
  output : standardOutput run.lines = ""
  silent : ∀ text, .complained text ∉ run.lines

namespace Refuses

variable {run : Run} {message : String}

theorem exitCode (h : Refuses run message) : run.ending.exitCode = 1 := by
  rw [h.ending]
  rfl

end Refuses

namespace Breaks

variable {run : Run}

theorem exitCode (h : Breaks run fault) : run.ending.exitCode = 1 := by
  rw [h.ending]
  rfl

end Breaks

theorem refuses_of_reported
    (hload : Monitor.load c.files env voice r.config (overrides r.root) = (events, .error fault))
    (hreported : fault.isReported = true) : Refuses (runCommand c env voice r command) fault.message := by
  rw [runCommand_of_reported hload hreported]
  refine ⟨rfl, by simp, standardError (env.chosenRank r.logLevel) (happenings events), ?_⟩
  rw [standardError_append, standardError_complained]

theorem breaks_of_unreported
    (hload : Monitor.load c.files env voice r.config (overrides r.root) = (events, .error fault))
    (hunreported : fault.isReported = false) : Breaks (runCommand c env voice r command) fault := by
  rw [runCommand_of_unreported hload hunreported]
  exact ⟨rfl, standardOutput_happenings events, fun text => by simp [happenings]⟩

theorem load_of_fault {files : Folder} {path : Option String} {given : List (CodeText × Json)} (voice : Voice)
    {fault : ConfigFault} (h : (Config.load files env path given).2 = .error fault) :
    ∃ events, Monitor.load files env voice path given = (events, .error (.config fault)) := by
  unfold Monitor.load
  split
  · next hload =>
    rw [hload] at h
    cases h
    exact ⟨_, rfl⟩
  · next hload =>
    rw [hload] at h
    cases h

/-- **When a configuration cannot be loaded,** from its file to the end of a run. -/
structure ConfigurationFaults (c : Circumstances) (env : Environment) (voice : Voice) (path : Option String)
    (given : List (CodeText × Json)) : Prop where
  /-- Whatever goes wrong is reported as an invalid configuration, up to the causes that are not foreseen. -/
  reported_iff : (∀ fault, (Config.load c.files env path given).2 = .error fault → fault.isReported = true) ↔
    ∀ p, Config.chosenPath env path = some p → ¬ Config.Unforeseen c.files p
  plain : (∀ p, Config.chosenPath env path = some p → Config.IsPlain c.files p) →
    ∀ fault, (Config.load c.files env path given).2 = .error fault → fault.isReported = true
  /-- A cause that is reported ends a run, and one that is not escapes. -/
  run : ∀ arguments r command, parse arguments = .ok r → r.command = some command → r.config = path →
    overrides r.root = given → ∀ fault, (Config.load c.files env path given).2 = .error fault →
      if fault.isReported = true then Refuses (run c env voice arguments) fault.message
      else (CommandLine.run c env voice arguments).ending = .escaped (.config fault)

/-- **A configuration that cannot be loaded** is reported just in case the cause is foreseen. -/
theorem configuration_faults (c : Circumstances) (env : Environment) (voice : Voice) (path : Option String)
    (given : List (CodeText × Json)) : ConfigurationFaults c env voice path given where
  reported_iff := Config.reported_iff
  plain := fun hplain => Config.reported_iff.mpr fun p hp => Config.not_unforeseen_of_isPlain (hplain p hp)
  run := fun arguments r command hparse hcommand hconfig hgiven fault hfault => by
    subst hconfig hgiven
    obtain ⟨events, hload⟩ := load_of_fault voice hfault
    rw [run_of_parse hparse hcommand]
    split
    · next hreported => exact refuses_of_reported hload hreported
    · next hunreported => exact (breaks_of_unreported hload (Bool.eq_false_iff.mpr hunreported)).ending

/-- A tree whose only file has a byte that begins no character. -/
def invalidByte : Folder :=
  [("c.json", .file [0xff])]

theorem readFile_invalidByte : invalidByte.readFile "c.json" = .ok [0xff] := by
  have hsplit : Path.split "c.json" = ["c.json"] := by decide +kernel
  rw [Folder.readFile, Folder.resolve_eq_follow (by simp) (by decide +kernel) (by simp) (by simp), hsplit,
    Folder.follow, Folder.advance_entry (by decide +kernel) (by decide +kernel) (by decide +kernel)]
  rfl

/-- The file cannot be decoded, so no configuration can be loaded from it. -/
theorem load_invalidByte {path : Option String} (hpath : Config.chosenPath env path = some "c.json")
    (given : List (CodeText × Json)) :
    (Config.load invalidByte env path given).2 = .error (.undecodable ⟨0, [0xff], .invalidStart⟩) := by
  have hdecode : Utf8.decode [0xff] = .error ⟨0, [0xff], .invalidStart⟩ := by
    rw [Utf8.decode, Utf8.decodeOnto]
    rfl
  rw [Config.load, hpath]
  simp only [Config.readFields, readFile_invalidByte, hdecode]

/-- The failure to read this file escapes. -/
theorem configuration_escapes_invalidByte :
    (Config.load invalidByte [] (some "c.json") []).2 = .error (.undecodable ⟨0, [0xff], .invalidStart⟩) ∧
      (run ⟨invalidByte, ⟨0⟩, false, "", .calm⟩ [] .silent ["--config", "c.json", "scan"]).ending =
        .escaped (.config (.undecodable ⟨0, [0xff], .invalidStart⟩)) := by
  have hpath : Config.chosenPath [] (some "c.json") = some "c.json" := by decide +kernel
  have hparse : parse ["--config", "c.json", "scan"] = .ok ⟨none, some "c.json", none, some .scan, none, []⟩ :=
    ok_of_toOption (by decide +kernel)
  refine ⟨load_invalidByte hpath [], ?_⟩
  rw [run_of_parse hparse rfl]
  obtain ⟨events, hsetup⟩ := load_of_fault .silent (load_invalidByte hpath (overrides none))
  rw [runCommand_of_unreported hsetup rfl]

end SourceWatch.CommandLine

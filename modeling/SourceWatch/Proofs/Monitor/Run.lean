import SourceWatch.Monitor.Create
import SourceWatch.Proofs.Files.Resolve
import SourceWatch.Proofs.Monitor.Operation

/-!
# Runs of a monitor

A run takes one operation after the other, each in circumstances of its own.  Between two operations the
probe may come to tell something else.  A tick needs a timer that is armed.

Main definitions:

* `Monitor.initial`, `Monitor.Made`: a monitor as it is made from a configuration;
* `Moment`: an operation of a run, with the state in which it is taken;
* `Run`: the runs from a monitor on.

Main statements:

* `Monitor.eq_initial_of_create`: what is made from a configuration;
* `Run.invariant`: what operations and changes of the probe preserve holds after every run;
* `Run.sinks_eq`, `Run.deferred_eq_false`: the dispatcher of a run keeps its sinks and defers nothing;
* `Run.closed_eq_false`: only closing shuts the dispatcher down.
-/

namespace SourceWatch

/-- A ledger is made empty. -/
theorem Ledger.entries_of_create {limit window : Int} {l : Ledger}
    (h : Ledger.create limit window = .ok l) : l.entries = [] := by
  unfold create at h
  split at h
  · cases h
  · split at h
    · cases h
    · cases h
      rfl

namespace Monitor

/-! ### Monitors as they are made -/

/-- A monitor as it is made from a configuration. -/
def initial (config : Config) (ledger : Ledger) (sinks : List Sink) (probe : Probe) : Monitor :=
  { root := config.root
    walker := .ofLists (stringsOf config.ignored) (stringsOf config.extensions)
    detector := .ofCatalog config.catalog config.maxFileBytes
    probe := probe
    ledger := ledger
    dispatcher := .ofSinks sinks false
    running := false
    cycles := 0
    interval := config.interval
    lastScan := none
    sessions := 0
    session := none
    timers := [] }

/-- The monitor was made from a configuration just now. -/
def Made (m : Monitor) : Prop :=
  ∃ config files env voice sinks probe, (create config files env voice sinks probe).2 = .ok m

/-- What is made from a configuration is its initial monitor, with a ledger that was made as well. -/
theorem eq_initial_of_create {config : Config} {files : Folder} {env : Environment} {voice : Voice}
    {sinks : Option (List Sink)} {probe : Probe} {m : Monitor}
    (h : (create config files env voice sinks probe).2 = .ok m) :
    ∃ ledger, Ledger.create config.historyLimit config.window = .ok ledger ∧ config.checkRoot files = .ok () ∧
      m = initial config ledger (sinks.getD (defaultSinks config env voice).2) probe := by
  unfold create at h
  split at h
  · cases h
  · cases h
  · next ledger hroot hledger =>
    cases h
    refine ⟨ledger, hledger, hroot, ?_⟩
    cases sinks <;> rfl

/-- What is made is an initial monitor with an empty ledger. -/
theorem Made.eq_initial {m : Monitor} (h : m.Made) :
    ∃ config ledger sinks probe, ledger.entries = [] ∧ m = initial config ledger sinks probe := by
  obtain ⟨config, files, env, voice, sinks, probe, h⟩ := h
  obtain ⟨ledger, hledger, -, rfl⟩ := eq_initial_of_create h
  exact ⟨config, ledger, _, probe, Ledger.entries_of_create hledger, rfl⟩

/-- A monitor that is loaded is made from the configuration that is loaded. -/
theorem exists_create_of_load {files : Folder} {env : Environment} {voice : Voice} {path : Option String}
    {overrides : List (Text.CodeText × Json)} {m : Monitor}
    (h : (load files env voice path overrides).2 = .ok m) :
    ∃ config, (Config.load files env path overrides).2 = .ok config ∧
      (create config files env voice none .absent).2 = .ok m := by
  unfold load at h
  split at h
  · cases h
  · next records config hconfig =>
    refine ⟨config, by rw [hconfig], ?_⟩
    cases hcreate : (create config files env voice none .absent).2 with
    | error fault =>
      simp only [hcreate] at h
      cases h
    | ok made =>
      simp only [hcreate] at h
      cases h
      rfl

/-- The default root leads to the tree itself. -/
theorem resolve_defaultRoot (files : Folder) :
    files.resolve Config.default.root.render = .ok (.folder [] files) := by
  have hname : Config.default.root.render = "." := by decide +kernel
  have hsplit : Path.split "." = ["."] := by decide +kernel
  rw [hname, Folder.resolve_eq_follow (by simp) (by decide +kernel) (by simp) (by simp), hsplit,
    Folder.follow, Folder.advance.eq_def]
  rfl

theorem checkRoot_default (files : Folder) : Config.default.checkRoot files = .ok () := by
  have htext : Config.default.targetRoot.toString? = some "." := by decide +kernel
  rw [Config.checkRoot, htext]
  simp only [resolve_defaultRoot]

/-- An empty tree, and nothing else going on. -/
def quiet : Circumstances :=
  ⟨[], ⟨0⟩, false, "", .calm⟩

/-- A monitor of the default configuration. -/
def unconfigured (sinks : List Sink) (probe : Probe) : Monitor :=
  initial .default ⟨defaultHistoryLimit, defaultWindow, []⟩ sinks probe

theorem create_unconfigured (sinks : List Sink) (probe : Probe) :
    (create .default [] [] .silent (some sinks) probe).2 = .ok (unconfigured sinks probe) := by
  simp only [create, checkRoot_default]
  rfl

/-- A monitor of the default configuration with one sink and a probe. -/
def plain : Monitor :=
  unconfigured [.observer] .silent

theorem create_plain : (create .default [] [] .silent (some [.observer]) .silent).2 = .ok plain :=
  create_unconfigured [.observer] .silent

theorem made_plain : plain.Made :=
  ⟨.default, [], [], .silent, some [.observer], .silent, create_plain⟩

/-- Whether the operation can be taken. -/
def Enables (m : Monitor) (a : Action) : Prop :=
  a = .tick → m.timers ≠ []

/-- The monitor when its probe comes to tell something else. -/
def probing (m : Monitor) (probe : Probe) : Monitor :=
  { m with probe := probe }

end Monitor

/-- An operation of a run: the monitor before it, what surrounds it, and which it is. -/
structure Moment where
  before : Monitor
  circumstances : Circumstances
  action : Action

namespace Moment

/-- What the operation does. -/
def outcome (t : Moment) : Outcome Answer :=
  t.before.perform t.circumstances t.action

/-- The jobs that the operation hands to the sinks. -/
def jobs (t : Moment) : List Job :=
  t.before.jobs t.circumstances t.action

end Moment

/-- **Runs.**  The operations of a run from `start` on, oldest first, and the monitor after them. -/
inductive Run (start : Monitor) : List Moment → Monitor → Prop
  | here : Run start [] start
  | probe {past m} (run : Run start past m) (probe : Probe) : Run start past (m.probing probe)
  | step {past m} (run : Run start past m) (c : Circumstances) (a : Action) (enabled : m.Enables a) :
      Run start (past ++ [⟨m, c, a⟩]) (m.perform c a).monitor

namespace Run

variable {start m : Monitor} {past : List Moment}

/-- What holds at the start and is preserved by every change of the probe and by every operation holds
after every run. -/
theorem invariant (Inv : Monitor → Prop) (hstart : Inv start)
    (hprobe : ∀ m probe, Inv m → Inv (m.probing probe))
    (hstep : ∀ {m c a n result jobs}, m.Enables a → Monitor.Performs m c a n result jobs → Inv m → Inv n)
    (run : Run start past m) : Inv m := by
  induction run with
  | here => exact hstart
  | probe _ p ih => exact hprobe _ p ih
  | step _ c a enabled ih => exact hstep enabled (Monitor.perform_performs _ c a) ih

/-- Every operation of a run is taken after a part of the run. -/
theorem exists_of_mem (run : Run start past m) {t : Moment} (ht : t ∈ past) :
    ∃ earlier later, past = earlier ++ t :: later ∧ Run start earlier t.before ∧
      t.before.Enables t.action := by
  induction run with
  | here => cases ht
  | probe _ p ih => exact ih ht
  | @step past m run c a enabled ih =>
    rcases List.mem_append.mp ht with hold | hnew
    · obtain ⟨earlier, later, rfl, hrun, henabled⟩ := ih hold
      exact ⟨earlier, later ++ [⟨m, c, a⟩], by rw [List.append_assoc]; rfl, hrun, henabled⟩
    · rw [List.mem_singleton.mp hnew]
      exact ⟨past, [], rfl, run, enabled⟩

end Run

/-! ### The dispatcher along a run -/

namespace Monitor

variable {m n : Monitor} {c : Circumstances} {a : Action} {jobs : List Job}

theorem Attempt.dispatcher_eq {result : Except MonitorFault Report} (h : Attempt m c n result jobs) :
    n.dispatcher = m.dispatcher.taking jobs := by
  cases h with
  | skipped => exact (Dispatcher.taking_nil _).symm
  | completed => rfl
  | brokenOff => exact (Dispatcher.taking_nil _).symm

/-- An operation hands out its jobs, and closing may shut the dispatcher down after that. -/
theorem Performs.dispatcher_eq {result : Except MonitorFault Answer}
    (h : Performs m c a n result jobs) :
    n.dispatcher = m.dispatcher.taking jobs ∨
      a = .close ∧ n.dispatcher = (m.dispatcher.taking jobs).shutdown := by
  induction h with
  | scan attempt => exact .inl attempt.dispatcher_eq
  | tick attempt => exact .inl attempt.dispatcher_eq
  | started _ _ _ attempt =>
    have harm : ∀ n : Monitor, n.armTimer.dispatcher = n.dispatcher := fun n => by
      cases hs : n.session <;> simp only [armTimer, hs]
    refine .inl ((harm _).trans (attempt.dispatcher_eq.trans ?_))
    exact Dispatcher.taking_taking m.dispatcher _ _
  | stopped => exact .inl rfl
  | tested => exact .inl rfl
  | closeRefused stop ih =>
    rcases ih with h | ⟨hne, -⟩
    · exact .inl h
    · cases hne
  | closed stop ih =>
    rcases ih with h | ⟨hne, -⟩
    · exact .inr ⟨rfl, congrArg Dispatcher.shutdown h⟩
    · cases hne
  | _ => exact .inl (Dispatcher.taking_nil _).symm

/-- No operation changes the sinks. -/
theorem Performs.sinks_eq {result : Except MonitorFault Answer} (h : Performs m c a n result jobs) :
    n.dispatcher.sinks = m.dispatcher.sinks := by
  rcases h.dispatcher_eq with h | ⟨-, h⟩
  · rw [h, Dispatcher.sinks_taking]
  · rw [h]
    exact Dispatcher.sinks_taking _ _

theorem Performs.deferred_eq {result : Except MonitorFault Answer}
    (h : Performs m c a n result jobs) : n.dispatcher.deferred = m.dispatcher.deferred := by
  rcases h.dispatcher_eq with h | ⟨-, h⟩
  · rw [h, Dispatcher.deferred_taking]
  · rw [h]
    exact Dispatcher.deferred_taking _ _

/-- Only closing shuts the dispatcher down. -/
theorem Performs.closed_eq {result : Except MonitorFault Answer}
    (h : Performs m c a n result jobs) (ha : a ≠ .close) :
    n.dispatcher.closed = m.dispatcher.closed := by
  rcases h.dispatcher_eq with h | ⟨hclose, -⟩
  · rw [h, Dispatcher.closed_taking]
  · exact absurd hclose ha

end Monitor

namespace Run

variable {start m : Monitor} {past : List Moment}

/-- The sinks stay those that were registered. -/
theorem sinks_eq (run : Run start past m) : m.dispatcher.sinks = start.dispatcher.sinks :=
  run.invariant (fun m => m.dispatcher.sinks = start.dispatcher.sinks) rfl (fun _ _ h => h)
    fun _ hperforms h => hperforms.sinks_eq.trans h

/-- Jobs are carried out at once. -/
theorem deferred_eq_false (run : Run start past m) (made : start.Made) :
    m.dispatcher.deferred = false := by
  obtain ⟨config, ledger, sinks, probe, -, rfl⟩ := made.eq_initial
  exact run.invariant (fun m => m.dispatcher.deferred = false) rfl (fun _ _ h => h)
    fun _ hperforms h => hperforms.deferred_eq.trans h

/-- Before it is closed, a monitor takes jobs. -/
theorem closed_eq_false (run : Run start past m) (made : start.Made)
    (hopen : ∀ t ∈ past, t.action ≠ .close) : m.dispatcher.closed = false := by
  obtain ⟨config, ledger, sinks, probe, -, rfl⟩ := made.eq_initial
  induction run with
  | here => rfl
  | probe _ p ih => exact ih hopen
  | step _ c a _ ih =>
    have hold := ih fun t ht => hopen t (List.mem_append_left _ ht)
    have ha := hopen _ (List.mem_append_right _ (List.mem_singleton_self _))
    exact ((Monitor.perform_performs _ c a).closed_eq ha).trans hold

end Run

end SourceWatch

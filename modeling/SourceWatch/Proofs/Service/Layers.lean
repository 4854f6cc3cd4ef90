import SourceWatch.CommandLine.Run
import SourceWatch.Proofs.CommandLine.Interval
import SourceWatch.Proofs.Monitor.Bounds
import SourceWatch.Proofs.Service.Visits

/-!
# The layers of validation

Values from outside are checked once, at the surface: the fields of a configuration, a word on the command line, the
body of a request.  The layers within have checks of their own, and none of them refuses what a surface lets
through.

Main definitions:

* `Monitor.KeepsBounds`: the interval and the ledger of a monitor, by its configuration;
* `Monitor.NeverTooSmall`: the intervals that no monitor refuses;
* `Config.LinesUp`: what a configuration that is accepted comes to;
* `LayersAgree`: no layer refuses what the surfaces let through.

Main statements:

* `Service.exists_run_of_afterVisits`: the monitor of a service has come by a run from the one that was made;
* `Monitor.exists_run_of_execute`: so has the monitor after a command;
* `layers_agree`.
-/

namespace SourceWatch

open Text

/-! ### Monitors of a configuration -/

/-- The interval of a monitor is a second at least, and its ledger holds no more than the configuration says. -/
structure Monitor.KeepsBounds (config : Config) (m : Monitor) : Prop where
  interval : 1 ≤ m.interval
  held : 0 ≤ (m.ledger.size : ℤ) ∧ (m.ledger.size : ℤ) ≤ config.historyLimit

namespace Config

variable {config : Config}

theorem InBounds.keepsBounds {m : Monitor} (h : config.InBounds) (range : m.InRange config.historyLimit.toNat) :
    m.KeepsBounds config := by
  refine ⟨range.interval, Int.natCast_nonneg _, ?_⟩
  have hheld := range.within.held
  have hlimit := h.historyLimit
  rw [range.limit] at hheld
  show (m.ledger.entries.length : ℤ) ≤ config.historyLimit
  omega

/-- **What a configuration that is accepted comes to.**  Only its root stands against making a monitor, and the monitor
keeps the bounds for good. -/
structure LinesUp (config : Config) : Prop where
  constructs : config.Constructs
  runs : ∀ files env voice sinks probe start, (Monitor.create config files env voice sinks probe).2 = .ok start →
    ∀ past m, Run start past m → m.KeepsBounds config
  /-- Also while another scan is under way. -/
  histories : ∀ files env voice sinks probe start,
    (Monitor.create config files env voice sinks probe).2 = .ok start →
    ∀ past s, History start past s → s.monitor.KeepsBounds config

theorem InBounds.linesUp (h : config.InBounds) : config.LinesUp where
  constructs := h.constructs
  runs := fun _ _ _ _ _ _ hcreate _ _ run => h.keepsBounds (run.inRange (.of_create h hcreate))
  histories := fun _ _ _ _ _ _ hcreate _ _ history => h.keepsBounds (history.inRange (.of_create h hcreate))

end Config

/-! ### Starting -/

namespace Monitor

/-- No monitor refuses to start because this interval is too small. -/
def NeverTooSmall (interval : Option Int) : Prop :=
  ∀ (m : Monitor) (c : Circumstances), (m.start c interval).result ≠ .error .intervalTooSmall

/-- A start at an interval of a second at least is not refused for its interval. -/
theorem neverTooSmall_of_one_le {interval : Option Int} (long : ∀ seconds ∈ interval, 1 ≤ seconds) :
    NeverTooSmall interval := by
  intro m c
  have hlong : interval.any (· < 1) = false := by
    cases interval with
    | none => rfl
    | some seconds => exact decide_eq_false (Int.not_lt.mpr (long seconds rfl))
  cases hrun : m.running with
  | true =>
    rw [start_of_running hrun]
    nofun
  | false =>
    cases hrefuses : m.dispatcher.refuses with
    | true =>
      rw [start_of_refuses hrun hlong hrefuses]
      nofun
    | false =>
      rw [start_of_accepts hrun hlong hrefuses]
      nofun

end Monitor

/-! ### The surfaces -/

namespace Service

variable {start m : Monitor} {past : List Moment}

/-- An order is an operation of a run, or none. -/
theorem exists_run_of_following (run : Run start past m) (c : Circumstances) (o : Order) :
    ∃ past, Run start past (m.following c o).1 := by
  cases o with
  | status => exact ⟨past, run⟩
  | _ => exact ⟨_, run.step c _ nofun⟩

theorem exists_run_of_follow (run : Run start past m) (v : Visit) : ∃ past, Run start past (m.follow v) := by
  unfold Monitor.follow
  cases v.order? with
  | none => exact ⟨past, run⟩
  | some o => exact exists_run_of_following run v.circumstances o

theorem exists_run_of_foldl (run : Run start past m) (visits : List Visit) :
    ∃ past, Run start past (visits.foldl Monitor.follow m) := by
  induction visits generalizing past m with
  | nil => exact ⟨past, run⟩
  | cons v visits ih =>
    obtain ⟨next, hnext⟩ := exists_run_of_follow run v
    exact ih hnext

theorem exists_of_firstMade? {visits rest : List Visit} (h : firstMade? visits = some (start, rest)) :
    ∃ v ∈ visits, v.load.2 = .ok start := by
  induction visits with
  | nil => cases h
  | cons v visits ih =>
    unfold firstMade? at h
    split at h
    · next hload =>
      cases h
      exact ⟨v, List.mem_cons_self, hload⟩
    · obtain ⟨w, hw, hload⟩ := ih h
      exact ⟨w, List.mem_cons_of_mem v hw, hload⟩

/-- **The monitor of a service has come by a run from the one that was made.** -/
theorem exists_run_of_afterVisits {visits : List Visit} (h : (fresh.afterVisits visits).monitor = some m) :
    ∃ v ∈ visits, ∃ start, v.load.2 = .ok start ∧ ∃ past, Run start past m := by
  rw [monitor_afterVisits, Option.map_eq_some_iff] at h
  obtain ⟨⟨start, rest⟩, hmade, rfl⟩ := h
  obtain ⟨v, hv, hload⟩ := exists_of_firstMade? hmade
  exact ⟨v, hv, start, hload, exists_run_of_foldl .here rest⟩

end Service

namespace Monitor

open CommandLine

/-- Whatever becomes of a command, the monitor is the one after its operation. -/
theorem monitor_execute (m : Monitor) (c : Circumstances) (interval : Option Int) (command : Command) :
    (execute m c interval command).2.2 =
      match command with
      | .scan => (m.perform c .scan).monitor
      | .start => (m.perform c (.start interval)).monitor
      | .stop => (m.perform c .stop).monitor
      | .status => m
      | .test => (m.perform c .test).monitor := by
  cases command with
  | scan =>
    simp only [execute]
    split <;> rfl
  | test =>
    simp only [execute]
    split <;> rfl
  | _ => rfl

/-- **The monitor after a command has come by a run,** and so has the one that is closed at the end. -/
theorem exists_run_of_execute (m : Monitor) (c : Circumstances) (interval : Option Int) (command : Command) :
    (∃ past, Run m past (execute m c interval command).2.2) ∧
      ∃ past, Run m past ((execute m c interval command).2.2.close c).monitor := by
  have hexecuted : ∃ past, Run m past (execute m c interval command).2.2 := by
    rw [monitor_execute]
    cases command with
    | status => exact ⟨_, .here⟩
    | _ => exact ⟨_, Run.here.step c _ nofun⟩
  obtain ⟨past, run⟩ := hexecuted
  exact ⟨⟨past, run⟩, _, run.step c .close nofun⟩

end Monitor

/-! ### The layers -/

/-- **No layer refuses what the surfaces let through.** -/
structure LayersAgree : Prop where
  accepted : ∀ fields overrides config, Config.ofOverridden fields overrides = .ok config → config.LinesUp
  loaded : ∀ files env path overrides config, (Config.load files env path overrides).2 = .ok config → config.LinesUp
  word : ∀ word seconds, CommandLine.readInterval word = .ok seconds →
    Monitor.NeverTooSmall (some seconds)
  arguments : ∀ arguments reading, CommandLine.parse arguments = .ok reading →
    Monitor.NeverTooSmall reading.interval
  body : ∀ (request : Service.Request) interval, request.interval = .ok interval →
    Monitor.NeverTooSmall interval
  /-- A command, and the closing at its end, leave a monitor in bounds. -/
  commandLine : ∀ (c : Circumstances) env voice path overrides m,
    (Monitor.load c.files env voice path overrides).2 = .ok m →
    ∃ config, (Config.load c.files env path overrides).2 = .ok config ∧ ∀ interval command,
      (CommandLine.execute m c interval command).2.2.KeepsBounds config ∧
        ((CommandLine.execute m c interval command).2.2.close c).monitor.KeepsBounds config
  /-- Visits leave a monitor in bounds, if they leave one at all. -/
  service : ∀ visits m, (Service.fresh.afterVisits visits).monitor = some m →
    ∃ v ∈ visits, ∃ config, (Config.load v.circumstances.files v.environment none []).2 = .ok config ∧
      m.KeepsBounds config

/-- **The layers of validation agree.** -/
theorem layers_agree : LayersAgree where
  accepted := fun _ _ _ haccepted => (Config.inBounds_of_ofOverridden haccepted).linesUp
  loaded := fun _ _ _ _ _ hloaded => (Config.inBounds_of_load hloaded).linesUp
  word := fun _ seconds hword => Monitor.neverTooSmall_of_one_le fun n hn => by
    rw [← Option.some.inj hn]
    exact CommandLine.one_le_of_readInterval hword
  arguments := fun _ _ hparse => Monitor.neverTooSmall_of_one_le (CommandLine.namesSeconds_of_parse hparse)
  body := fun _ _ hbody => Monitor.neverTooSmall_of_one_le (Service.Request.one_le_interval hbody)
  commandLine := fun c env voice path overrides m hload => by
    obtain ⟨config, hconfig, hcreate⟩ := Monitor.exists_create_of_load hload
    have hlines := (Config.inBounds_of_load hconfig).linesUp
    refine ⟨config, hconfig, fun interval command => ?_⟩
    obtain ⟨⟨past, hrun⟩, later, hclosed⟩ := Monitor.exists_run_of_execute m c interval command
    exact ⟨hlines.runs _ _ _ _ _ _ hcreate _ _ hrun, hlines.runs _ _ _ _ _ _ hcreate _ _ hclosed⟩
  service := fun visits m hm => by
    obtain ⟨v, hv, start, hload, past, hrun⟩ := Service.exists_run_of_afterVisits hm
    obtain ⟨config, hconfig, hcreate⟩ := Monitor.exists_create_of_load hload
    exact ⟨v, hv, config, hconfig, (Config.inBounds_of_load hconfig).linesUp.runs _ _ _ _ _ _ hcreate _ _ hrun⟩

end SourceWatch

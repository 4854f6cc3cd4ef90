import SourceWatch.Proofs.Config.Bounds
import SourceWatch.Proofs.Monitor.Accounting

/-!
# Monitors keep their bounds

A configuration that keeps its bounds makes a monitor wherever its root is a folder.  From then on the interval is a
second at least, and the ledger never holds more than its limit, whatever is asked of the monitor and whatever
another scan does in between.

Main definitions:

* `Config.HasRoot`, `Config.RootUnreadable`: what looking up the target root comes to;
* `Config.Constructs`: what making a monitor comes to;
* `Monitor.InRange`: the interval and the ledger keep their bounds.

Main statements:

* `Config.InBounds.constructs`: only the root stands against making a monitor;
* `Monitor.InRange.performs`: every operation keeps the bounds;
* `Run.inRange`, `History.inRange`: runs and histories keep them.
-/

namespace SourceWatch

/-! ### Making a monitor -/

namespace Config

variable {config : Config} {files : Folder} {fault : CreationFault}

/-- The target root is a folder, or a link to one. -/
def HasRoot (config : Config) (files : Folder) : Prop :=
  config.targetRoot.toString?.isSome = true ∧ files.isFolder config.root.render = true

/-- Looking the target root up fails for a reason other than that there is nothing: it is too long. -/
def RootUnreadable (config : Config) (files : Folder) : Prop :=
  config.targetRoot.toString?.isSome = true ∧ files.resolve config.root.render = .error .nameTooLong

/-- The ways in which looking up the target root ends. -/
inductive RootLookup (config : Config) (files : Folder) : Except CreationFault Unit → Prop
  | found (root : config.HasRoot files) : RootLookup config files (.ok ())
  | refused {fault : CreationFault} (rootless : ¬ config.HasRoot files) (readable : ¬ config.RootUnreadable files)
      (reported : fault.isRootFault = true) : RootLookup config files (.error fault)
  | unreadable (rootless : ¬ config.HasRoot files) (unreadable : config.RootUnreadable files) :
      RootLookup config files (.error (.rootUnreadable config.root .nameTooLong))

/-- **Looking up the target root.** -/
theorem rootLookup (config : Config) (files : Folder) : config.RootLookup files (config.checkRoot files) := by
  unfold checkRoot
  cases htext : config.targetRoot.toString? with
  | none => exact .refused (by simp [HasRoot, htext]) (by simp [RootUnreadable, htext]) rfl
  | some text =>
    cases hresolve : files.resolve config.root.render with
    | ok target =>
      have hreadable : ¬ config.RootUnreadable files := by simp [RootUnreadable, hresolve]
      cases target with
      | file bytes => exact .refused (by simp [HasRoot, Folder.isFolder, hresolve]) hreadable rfl
      | folder trail entries => exact .found (by simp [HasRoot, Folder.isFolder, htext, hresolve])
    | error cause =>
      have hrootless : ¬ config.HasRoot files := by simp [HasRoot, Folder.isFolder, hresolve]
      cases cause with
      | nameTooLong => exact .unreadable hrootless (by simp [RootUnreadable, htext, hresolve])
      | _ => exact .refused hrootless (by simp [RootUnreadable, hresolve]) rfl

/-- **What making a monitor comes to.**  Only the target root stands against it: no bound of the ledger and no severity
is refused, and credentials that are incomplete are only told of. -/
structure Constructs (config : Config) : Prop where
  made : ∀ files env voice sinks probe, config.HasRoot files →
    ∃ m, (Monitor.create config files env voice sinks probe).2 = .ok m
  refused : ∀ files env voice sinks probe, ¬ config.RootUnreadable files →
    ((∃ fault, (Monitor.create config files env voice sinks probe).2 = .error fault ∧ fault.isRootFault = true) ↔
      ¬ config.HasRoot files)
  onlyRoot : ∀ files env voice sinks probe fault,
    (Monitor.create config files env voice sinks probe).2 = .error fault →
    fault.isRootFault = true ∨
      fault = .rootUnreadable config.root .nameTooLong ∧ config.RootUnreadable files
  severities : ∃ catalog, Catalog.ofSettings (some (stringsOf config.keywords))
      (config.severities.map fun entry => (entry.1, entry.2.label)) = .ok catalog ∧
    ((config.severities.map (·.1)).Nodup → catalog = config.catalog)
  incomplete : ∀ files env voice probe names, config.HasRoot files → config.smsEnabled = true →
    Credentials.ofEnvironment env = .error names →
    ∃ events m, Monitor.create config files env voice none probe = (events, .ok m) ∧
      Event.log .info .monitor (Credentials.incomplete names) ∈ events ∧
      ∀ sink ∈ m.dispatcher.sinks, ∀ messenger, sink ≠ .textMessage messenger

theorem checkRoot_eq_ok_iff : config.checkRoot files = .ok () ↔ config.HasRoot files := by
  have hlookup := config.rootLookup files
  generalize config.checkRoot files = result at hlookup ⊢
  cases hlookup with
  | found root => simp [root]
  | refused rootless => simp [rootless]
  | unreadable rootless => simp [rootless]

/-- A monitor is made only where there is a root. -/
theorem hasRoot_of_create {env : Environment} {voice : Voice} {sinks : Option (List Sink)} {probe : Probe}
    {m : Monitor} (h : (Monitor.create config files env voice sinks probe).2 = .ok m) : config.HasRoot files := by
  unfold Monitor.create at h
  split at h
  · cases h
  · cases h
  · next hcheck _ => exact checkRoot_eq_ok_iff.mp hcheck

theorem InBounds.createLedger (h : config.InBounds) :
    Ledger.create config.historyLimit config.window =
      .ok ⟨config.historyLimit.toNat, config.window.toNat, []⟩ :=
  Ledger.create_of_pos (Int.le_trans (by decide) h.historyLimit) h.window

/-- In bounds and where there is a root, a monitor is made, with the given sinks or else the ones asked for. -/
theorem InBounds.create_of_hasRoot (h : config.InBounds) (hroot : config.HasRoot files) (env : Environment)
    (voice : Voice) (sinks : Option (List Sink)) (probe : Probe) :
    ∃ ready, Monitor.create config files env voice sinks probe =
      ((sinks.elim (defaultSinks config env voice) ([], ·)).1 ++ [ready],
        .ok (Monitor.initial config ⟨config.historyLimit.toNat, config.window.toNat, []⟩
          (sinks.elim (defaultSinks config env voice) ([], ·)).2 probe)) := by
  simp only [Monitor.create, checkRoot_eq_ok_iff.mpr hroot, h.createLedger]
  cases sinks <;> exact ⟨_, rfl⟩

/-- The fault of a monitor that is not made lies in looking up its root. -/
theorem InBounds.rootLookup_of_create (h : config.InBounds) {env : Environment} {voice : Voice}
    {sinks : Option (List Sink)} {probe : Probe}
    (hfault : (Monitor.create config files env voice sinks probe).2 = .error fault) :
    config.RootLookup files (.error fault) := by
  unfold Monitor.create at hfault
  split at hfault
  · next hcheck =>
    cases hfault
    exact hcheck ▸ config.rootLookup files
  · next hledger =>
    rw [h.createLedger] at hledger
    cases hledger
  · cases hfault

/-- Without credentials for text messages, no sink sends any. -/
theorem defaultSinks_of_incomplete {env : Environment} {names : List String} (hsms : config.smsEnabled = true)
    (hnames : Credentials.ofEnvironment env = .error names) (voice : Voice) :
    Event.log .info .monitor (Credentials.incomplete names) ∈ (defaultSinks config env voice).1 ∧
      ∀ sink ∈ (defaultSinks config env voice).2, ∀ messenger, sink ≠ .textMessage messenger := by
  cases hvoice : config.voiceEnabled <;> simp [defaultSinks, hsms, hnames, hvoice]

/-- **Only the root stands against making a monitor** of a configuration that keeps its bounds. -/
theorem InBounds.constructs (h : config.InBounds) : config.Constructs where
  made := fun files env voice sinks probe hroot => by
    obtain ⟨ready, hcreate⟩ := h.create_of_hasRoot hroot env voice sinks probe
    exact ⟨_, congrArg Prod.snd hcreate⟩
  refused := fun files env voice sinks probe readable => by
    constructor
    · rintro ⟨fault, hfault, -⟩
      cases h.rootLookup_of_create hfault with
      | refused rootless => exact rootless
      | unreadable rootless => exact rootless
    · intro rootless
      cases hresult : (Monitor.create config files env voice sinks probe).2 with
      | error fault =>
        cases h.rootLookup_of_create hresult with
        | refused _ _ reported => exact ⟨fault, rfl, reported⟩
        | unreadable _ unreadable => exact absurd unreadable readable
      | ok m => exact absurd (hasRoot_of_create hresult) rootless
  onlyRoot := fun files env voice sinks probe fault hfault => by
    cases h.rootLookup_of_create hfault with
    | refused _ _ reported => exact .inl reported
    | unreadable _ unreadable => exact .inr ⟨rfl, unreadable⟩
  severities := config.exists_ofSettings
  incomplete := fun files env voice probe names hroot hsms hnames => by
    obtain ⟨htold, hsinks⟩ := defaultSinks_of_incomplete hsms hnames voice
    obtain ⟨ready, hcreate⟩ := h.create_of_hasRoot hroot env voice none probe
    exact ⟨_, _, hcreate, List.mem_append_left _ htold, hsinks⟩

end Config

/-! ### The ledger -/

namespace Ledger

/-- The ledger holds no more than its limit, which is one at least. -/
structure Within (l : Ledger) : Prop where
  limit : 1 ≤ l.limit
  held : l.entries.length ≤ l.limit

variable {l : Ledger}

theorem Within.record (h : l.Within) (f : Finding) : (l.record f).Within := by
  refine ⟨h.limit, ?_⟩
  have hkept := kept_le_limit h.limit
  simp only [Ledger.record]
  split
  · rw [length_lastOf]
    omega
  · omega

theorem Within.acceptAll (h : l.Within) (fs : List Finding) : (l.acceptAll fs).1.Within := by
  induction fs generalizing l with
  | nil => exact h
  | cons f fs ih =>
    by_cases hr : l.isRepeat f = true
    · rw [acceptAll_cons_of_isRepeat hr]
      exact ih h
    · rw [acceptAll_cons_of_not_isRepeat hr]
      exact ih (h.record f)

end Ledger

/-! ### Operations -/

namespace Monitor

/-- **The interval and the ledger keep their bounds.** -/
structure InRange (limit : ℕ) (m : Monitor) : Prop where
  interval : 1 ≤ m.interval
  limit : m.ledger.limit = limit
  within : m.ledger.Within

variable {limit : ℕ} {m n : Monitor} {c : Circumstances} {a : Action} {jobs : List Job}

theorem InRange.attempt {result : Except MonitorFault Report} (h : m.InRange limit)
    (attempt : Attempt m c n result jobs) : n.InRange limit := by
  cases attempt with
  | skipped => exact h
  | completed => exact ⟨h.interval, (Ledger.limit_acceptAll _ _).trans h.limit, h.within.acceptAll _⟩
  | brokenOff _ f => exact ⟨h.interval, h.limit, h.within.record f⟩

/-- A session is opened at an interval of a second at least. -/
theorem InRange.openSession {interval : Option Int} (h : m.InRange limit)
    (long : interval.any (· < 1) = false) : (m.openSession interval).InRange limit := by
  refine ⟨?_, h.limit, h.within⟩
  cases interval with
  | none => exact h.interval
  | some seconds => exact Int.not_lt.mp (of_decide_eq_false long)

/-- **Every operation keeps the bounds.** -/
theorem InRange.performs {result : Except MonitorFault Answer} (h : m.InRange limit)
    (performs : Performs m c a n result jobs) : n.InRange limit := by
  induction performs with
  | scan attempt => exact h.attempt attempt
  | tick attempt => exact h.attempt attempt
  | alreadyRunning => exact h
  | tooShort => exact h
  | startRefused _ long => exact h.openSession long
  | @started interval n result jobs _ long _ attempt =>
    have hannounced : (m.announced interval).InRange limit :=
      ⟨(h.openSession long).interval, h.limit, h.within⟩
    have hattempt := hannounced.attempt attempt
    rw [armTimer_eq]
    exact ⟨hattempt.interval, hattempt.limit, hattempt.within⟩
  | notRunning => exact h
  | stopRefused => exact ⟨h.interval, h.limit, h.within⟩
  | stopped => exact ⟨h.interval, h.limit, h.within⟩
  | testRefused => exact ⟨h.interval, h.limit, h.within.record _⟩
  | tested => exact ⟨h.interval, h.limit, h.within.record _⟩
  | closeRefused _ ih => exact ih
  | closed _ ih => exact ⟨ih.interval, ih.limit, ih.within⟩

/-- A monitor is in range as it is made from a configuration that keeps its bounds. -/
theorem InRange.of_create {config : Config} {files : Folder} {env : Environment} {voice : Voice}
    {sinks : Option (List Sink)} {probe : Probe} (bounds : config.InBounds)
    (made : (create config files env voice sinks probe).2 = .ok m) : m.InRange config.historyLimit.toNat := by
  obtain ⟨ready, hcreate⟩ :=
    bounds.create_of_hasRoot (Config.hasRoot_of_create made) env voice sinks probe
  rw [hcreate] at made
  cases made
  have := bounds.historyLimit
  refine ⟨bounds.interval, rfl, ?_, Nat.zero_le _⟩
  show 1 ≤ config.historyLimit.toNat
  omega

end Monitor

/-! ### Runs and histories -/

namespace Run

variable {start m : Monitor} {past : List Moment} {limit : ℕ}

/-- **A run keeps the bounds.** -/
theorem inRange (run : Run start past m) (h : start.InRange limit) : m.InRange limit :=
  run.invariant (Monitor.InRange limit) h (fun _ _ h => ⟨h.interval, h.limit, h.within⟩) fun _ hperforms h =>
    h.performs hperforms

end Run

namespace History

variable {start : Monitor} {past : List Occurrence} {s : Shared} {limit : ℕ}

/-- What another scan takes in, it takes in as the ledger decides. -/
theorem ledger_takeIn (s : Shared) (around : Surroundings) (f : Finding) :
    (s.takeIn around f).ledger = s.monitor.ledger ∨ (s.takeIn around f).ledger = s.monitor.ledger.record f := by
  by_cases hrepeat : s.monitor.ledger.isRepeat f = true
  · left
    simp only [Shared.takeIn, Intake.start, Intake.takeAll, Ledger.accept_of_isRepeat hrepeat]
  · right
    simp only [Shared.takeIn, Intake.start, Intake.takeAll, Ledger.accept_of_not_isRepeat hrepeat]
    split <;> rfl

/-- **A history keeps the bounds,** also while another scan is under way. -/
theorem inRange (history : History start past s) (h : start.InRange limit) : s.monitor.InRange limit := by
  induction history with
  | here => exact h
  | @step past s history d _ ih =>
    cases d with
    | perform c a =>
      rw [Shared.after_perform history.lock_ne_own]
      exact ih.performs (Monitor.perform_performs _ _ _)
    | found around f =>
      have htaken : (s.takeIn around f).ledger.limit = s.monitor.ledger.limit ∧ (s.takeIn around f).ledger.Within := by
        rcases ledger_takeIn s around f with hledger | hledger
        · rw [hledger]
          exact ⟨rfl, ih.within⟩
        · rw [hledger]
          exact ⟨rfl, ih.within.record f⟩
      exact ⟨ih.interval, htaken.1.trans ih.limit, htaken.2⟩
    | probe p => exact ⟨ih.interval, ih.limit, ih.within⟩
    | begun now => exact ⟨ih.interval, ih.limit, ih.within⟩
    | completed now => exact ⟨ih.interval, ih.limit, ih.within⟩
    | taken => exact ih
    | released => exact ih

end History

end SourceWatch

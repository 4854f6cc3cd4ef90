import SourceWatch.Proofs.Files.Contents
import SourceWatch.Proofs.Files.Faults
import SourceWatch.Proofs.Monitor.Attempts

/-!
# Scans of broken trees

No tree breaks a scan off: before the monitor is closed, every scan yields a report unless another is in progress.
What a file contributes to it depends on what is read at its path, so it stays the same when other files get other
contents.

Main definition: `Monitor.Withstands`, what is true of a scan that no tree breaks off.

Main statements:

* `Detector.scanFile_congr`: what is read at a path determines what is found there;
* `Detector.scanFile_changed`: so does what becomes of the file at the place of the path;
* `Run.root_eq`: the root of a run stays the one that the monitor was made for;
* `Run.scan_withstands`: no tree breaks a scan off.
-/

namespace SourceWatch

open Folder

/-! ### One file -/

namespace Detector

variable {top other : Folder} {path : String} {place : List String}

/-- **What is read at a path determines what is found there.** -/
theorem scanFile_congr (d : Detector) (stamp : Stamp) (h : other.readFile path = top.readFile path) :
    d.scanFile other stamp path = d.scanFile top stamp path := by
  have hread : d.read other path = d.read top path := by rw [read, read, sizeOf_congr h, h]
  rw [scanFile, scanFile, hread]

/-- What is found at a path does not depend on files at other places. -/
theorem scanFile_changed (d : Detector) (stamp : Stamp) (h : top.LeadsTo path place) {change : Change}
    (kept : ∀ bytes, change place bytes = bytes) :
    d.scanFile (top.changed change []) stamp path = d.scanFile top stamp path := by
  refine scanFile_congr d stamp ?_
  rw [h change]
  cases top.readFile path with
  | error fault => rfl
  | ok bytes => exact congrArg Except.ok (kept bytes)

/-- A file is not read because its path leads to a folder, or because it leads nowhere. -/
theorem read_error {d : Detector} {fault : FileFault} (h : d.read top path = .error fault) :
    fault = .isFolder ∨ top.resolve path = .error fault := by
  unfold read at h
  split at h
  · next hsize =>
    cases h
    exact .inr (sizeOf_error hsize)
  · split at h
    · cases h
    · split at h
      · next hfile =>
        cases h
        exact readFile_error hfile
      · split at h <;> cases h

end Detector

/-! ### The root -/

namespace Monitor

variable {m n : Monitor} {c : Circumstances} {a : Action} {jobs : List Job}

theorem Attempt.root_eq {result : Except MonitorFault Report} (h : Attempt m c n result jobs) :
    n.root = m.root := by
  cases h <;> rfl

/-- No operation changes the root. -/
theorem Performs.root_eq {result : Except MonitorFault Answer} (h : Performs m c a n result jobs) :
    n.root = m.root := by
  induction h with
  | scan attempt => exact attempt.root_eq
  | tick attempt => exact attempt.root_eq
  | started _ _ _ attempt =>
    rw [armTimer_eq]
    exact attempt.root_eq
  | closeRefused _ ih => exact ih
  | closed _ ih => exact ih
  | _ => rfl

/-- The root that a monitor is made for was looked up, so it has no NUL. -/
theorem Made.notNul_root (h : m.Made) : '\x00' ∉ m.root.render.toList := by
  obtain ⟨config, files, env, voice, sinks, probe, h⟩ := h
  obtain ⟨ledger, -, hroot, rfl⟩ := eq_initial_of_create h
  unfold Config.checkRoot at hroot
  split at hroot
  · cases hroot
  · split at hroot
    · next hresolve => exact notNul_of_resolve hresolve
    all_goals cases hroot

end Monitor

namespace Run

variable {start m : Monitor} {past : List Moment}

/-- The root stays the one that the monitor was made for. -/
theorem root_eq (run : Run start past m) : m.root = start.root :=
  run.invariant (fun m => m.root = start.root) rfl (fun _ _ h => h) fun _ hperforms h => hperforms.root_eq.trans h

end Run

/-! ### Scans -/

namespace Monitor

/-- The files that the next scan looks into. -/
def walked (m : Monitor) (c : Circumstances) : List Path :=
  (m.walker.traverse c.files m.root).files

/-- **A scan that no tree breaks off.**  It yields a report on what each file contributes, for itself, and on what the
probe tells; whatever fault is met, the file system gives it; and when files get other contents, the walk stays the
same, and so does the contribution of every other file. -/
structure Withstands (m : Monitor) (c : Circumstances) : Prop where
  reports : ∃ report, (m.scan c).result = .ok report ∧ report.filesScanned = (m.walked c).length ∧
    report.rawFindings = (m.rawFindings c).length
  contributions : m.rawFindings c =
    ((m.walked c).flatMap fun p => (m.detector.scanFile c.files (m.nextStamp c) p.render).2) ++
      m.probe.findings (m.nextStamp c)
  rootFault : ∀ fault, c.files.resolve m.root.render = .error fault → fault ≠ .embeddedNul
  fileFault : ∀ p ∈ m.walked c, ∀ fault, m.detector.read c.files p.render = .error fault → fault ≠ .embeddedNul
  sameWalk : ∀ change, m.walked { c with files := c.files.changed change [] } = m.walked c
  changed : ∀ change, m.rawFindings { c with files := c.files.changed change [] } =
    ((m.walked c).flatMap fun p =>
      (m.detector.scanFile (c.files.changed change []) (m.nextStamp c) p.render).2) ++
      m.probe.findings (m.nextStamp c)
  /-- What a file contributes depends on the contents at one place, even if links lead there. -/
  alone : ∀ p ∈ m.walked c, ∃ place, c.files.LeadsTo p.render place ∧
    ∀ change, (∀ bytes, change place bytes = bytes) → ∀ stamp,
      m.detector.scanFile (c.files.changed change []) stamp p.render = m.detector.scanFile c.files stamp p.render
  /-- Of two regular files, the other one can be overwritten. -/
  apart : ∀ p place q other, IsFileBelow c.files m.root p place → IsFileBelow c.files m.root q other → p ≠ q →
    ∀ bytes stamp,
      (c.files.changed (overwriting other bytes) []).readFile q.render =
        (c.files.readFile q.render).map (fun _ => bytes) ∧
      m.detector.scanFile (c.files.changed (overwriting other bytes) []) stamp p.render =
        m.detector.scanFile c.files stamp p.render

theorem overwriting_self (place : List String) (bytes : List UInt8) :
    overwriting place bytes place = fun _ => bytes := by
  funext old
  exact if_pos rfl

theorem overwriting_of_ne {place other : List String} (h : place ≠ other) (bytes old : List UInt8) :
    overwriting other bytes place old = old :=
  if_neg h

variable {m : Monitor} {c : Circumstances}

theorem walked_changed (m : Monitor) (c : Circumstances) (change : Change) :
    m.walked { c with files := c.files.changed change [] } = m.walked c :=
  congrArg Walker.Traversal.files (Walker.traverse_changed m.walker change c.files m.root)

theorem contributions_eq (m : Monitor) (c : Circumstances) : m.rawFindings c =
    ((m.walked c).flatMap fun p => (m.detector.scanFile c.files (m.nextStamp c) p.render).2) ++
      m.probe.findings (m.nextStamp c) := by
  rw [rawFindings_eq_seen, seen]
  simp only [Detector.scanFile_eq_findingsIn]
  rfl

/-- A scan while jobs are taken and no other scan is in progress, below a root without a NUL. -/
theorem withstands (accepts : m.dispatcher.refuses = false) (idle : c.busy = false)
    (hroot : '\x00' ∉ m.root.render.toList) (wellFormed : c.files.isWellFormed = true) : m.Withstands c where
  reports := ⟨_, ((scan_attempts m c).of_accepts accepts idle).2.1, rfl, rfl⟩
  contributions := contributions_eq m c
  rootFault := by
    rintro fault hfault rfl
    rcases resolve_error hfault with ⟨hmem, -⟩ | ⟨-, hway⟩
    · exact hroot hmem
    · cases hway
  fileFault := by
    rintro p hp fault hfault rfl
    rcases Detector.read_error hfault with hfolder | hresolve
    · cases hfolder
    · rcases resolve_error hresolve with ⟨hmem, -⟩ | ⟨-, hway⟩
      · exact Walker.notNul_of_mem_traverse wellFormed hroot hp hmem
      · cases hway
  sameWalk := m.walked_changed c
  changed := fun change => by
    rw [contributions_eq, walked_changed]
    rfl
  alone := fun p _ => by
    obtain ⟨place, hplace⟩ := exists_leadsTo c.files p.render
    exact ⟨place, hplace, fun change kept stamp => m.detector.scanFile_changed stamp hplace kept⟩
  apart := fun p place q other hp hq hne bytes stamp => by
    refine ⟨?_, m.detector.scanFile_changed stamp (hp.leadsTo wellFormed)
      (overwriting_of_ne (hp.place_ne hq hne) bytes)⟩
    rw [hq.leadsTo wellFormed, overwriting_self]

end Monitor

namespace Run

variable {start m : Monitor} {past : List Moment}

/-- **No tree breaks a scan off.**  Before the monitor is closed, and whatever the probe tells, a scan of any tree
yields a report, unless another scan is in progress; and each file contributes what is found in it alone. -/
theorem scan_withstands (made : start.Made) (run : Run start past m) (hopen : ∀ t ∈ past, t.action ≠ .close)
    (c : Circumstances) (idle : c.busy = false) (wellFormed : c.files.isWellFormed = true) : m.Withstands c :=
  Monitor.withstands (Dispatcher.refuses_of_open (run.closed_eq_false made hopen)) idle
    (run.root_eq ▸ made.notNul_root) wellFormed

/-- A tree with a broken link, a link to itself and a file that starts with a NUL. -/
def brokenTree : Folder :=
  [("a.py", .file (Text.Utf8.encode "malware".toList)), ("b.py", .link "gone.py"), ("c.py", .link "c.py"),
    ("d.py", .file [0])]

theorem scan_withstands_brokenTree :
    let m := (Monitor.plain.perform Monitor.quiet .test).monitor.probing (.failing "unplugged")
    let c : Circumstances := { Monitor.quiet with files := brokenTree }
    m.Withstands c ∧ ∀ bytes stamp,
      m.detector.scanFile (brokenTree.changed (overwriting ["d.py"] bytes) []) stamp
          (m.root.descend ["a.py"]).render =
        m.detector.scanFile brokenTree stamp (m.root.descend ["a.py"]).render := by
  intro m c
  have hw : brokenTree.isWellFormed = true := by
    simp [Folder.isWellFormed, brokenTree, Folder.isProperName, Path.isIdle, Folder.isLongName, Folder.longestName]
    decide
  have hrun := (Run.step (@Run.here Monitor.plain) Monitor.quiet .test (by simp [Monitor.Enables])).probe
    (.failing "unplugged")
  have hstands := scan_withstands Monitor.made_plain hrun (by simp) c rfl hw
  have hroot := Monitor.resolve_defaultRoot brokenTree
  have ha : IsFileBelow brokenTree m.root (m.root.descend ["a.py"]) ["a.py"] :=
    .intro hroot (.here brokenTree) List.mem_cons_self
  have hd : IsFileBelow brokenTree m.root (m.root.descend ["d.py"]) ["d.py"] :=
    .intro hroot (.here brokenTree) (List.mem_of_getElem? (i := 3) rfl)
  have hne : m.root.descend ["a.py"] ≠ m.root.descend ["d.py"] := fun h =>
    absurd (Path.descend_injective _ h) (by simp)
  exact ⟨hstands, fun bytes stamp => (hstands.apart _ _ _ _ ha hd hne bytes stamp).2⟩

end Run

end SourceWatch

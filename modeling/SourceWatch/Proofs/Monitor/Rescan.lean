import SourceWatch.Monitor.Create
import SourceWatch.Proofs.Detector.Surroundings
import SourceWatch.Proofs.Files.Walk
import SourceWatch.Proofs.Monitor.Attempts

/-!
# Scanning an unchanged tree again

A tree that does not change is either reported once and never again, or reported in full by every scan.
Which of the two depends on whether the window and the limit of the ledger take in all that is recorded
between two scans.

Main definitions:

* `Monitor.distinctKeys`: the distinct keys among the findings that a scan sees;
* `Monitor.sendTests`, `Monitor.scans`: tests of the sinks and scans, one after the other;
* `Monitor.Follows`: a monitor that came from another one by steps whose findings are those of a log.

Main statement: `Monitor.rescan_dichotomy`.
-/

namespace SourceWatch

/-- The circumstances show a tree, and no other scan is in progress. -/
structure Circumstances.Shows (c : Circumstances) (tree : Folder) : Prop where
  files : c.files = tree
  idle : c.busy = false

namespace Monitor

/-- The distinct keys among the findings that there are for the next scan. -/
def distinctKeys (m : Monitor) (c : Circumstances) : List RepeatKey :=
  ((m.seen c).map Finding.key).eraseDups

theorem distinctKeys_eq_rawFindings (m : Monitor) (c : Circumstances) :
    m.distinctKeys c = ((m.rawFindings c).map Finding.key).eraseDups := by
  rw [distinctKeys, rawFindings_eq_seen]

/-- The monitor after tests of the sinks. -/
def sendTests (m : Monitor) : List Circumstances → Monitor
  | [] => m
  | c :: cs => (m.sendTest c).monitor.sendTests cs

/-- What scans yield, one after the other. -/
def scans (m : Monitor) : List Circumstances → List (Except MonitorFault Report)
  | [] => []
  | c :: cs => (m.scan c).result :: (m.scan c).monitor.scans cs

/-! ### The findings of a built catalog -/

section Built

variable {m : Monitor} {keywords : List String} {overrides : List (String × Severity)}
  {maxFileBytes : Int} {c : Circumstances}

/-- Findings with equal keys come in a row, because no file is listed twice. -/
theorem clustered_rawFindings (hp : m.probe = .absent)
    (hd : m.detector = .ofCatalog (.build keywords overrides) maxFileBytes)
    (hw : c.files.isWellFormed = true) : Clustered (m.rawFindings c) := by
  have hpaths := Walker.nodup_render_traverse hw m.walker m.root
  rw [List.Nodup, List.pairwise_map] at hpaths
  rw [rawFindings_of_absent hp, hd]
  refine Clustered.flatMap (fun path _ => Detector.clustered_scanFile _ _ _ _ _ _) ?_
  refine hpaths.imp fun {p q} hpq f hf g hg he => hpq ?_
  rw [← Detector.filePath_of_mem_scanFile hf, ← Detector.filePath_of_mem_scanFile hg]
  exact (RepeatKey.mk.inj he).1.symm

theorem category_of_mem_rawFindings (hp : m.probe = .absent)
    (hd : m.detector = .ofCatalog (.build keywords overrides) maxFileBytes) {f : Finding}
    (hf : f ∈ m.rawFindings c) : f.category ≠ testCategory := by
  rw [rawFindings_of_absent hp, hd] at hf
  obtain ⟨path, _, hf⟩ := List.mem_flatMap.mp hf
  exact Detector.category_of_mem_scanFile hf

end Built

/-! ### One step -/

/-- **What a scan reports and what it leaves behind.**  A monitor whose dispatcher takes jobs completes
every scan unless another is in progress.  The report has the findings that the ledger took, the ledger
has them recorded, and the setup stays. -/
theorem scan_of_open {m : Monitor} {c : Circumstances} (hb : c.busy = false)
    (ho : m.dispatcher.closed = false) :
    ∃ r, (m.scan c).result = .ok r ∧ r.findings = (m.ledger.acceptAll (m.rawFindings c)).2 ∧
      r.rawFindings = (m.rawFindings c).length ∧
      (m.scan c).monitor.ledger = (m.ledger.acceptAll (m.rawFindings c)).1 ∧
      (m.scan c).monitor.dispatcher.closed = false ∧ SameSetup m (m.scan c).monitor := by
  obtain ⟨hnext, hresult, -⟩ :=
    (scan_attempts m c).of_accepts (Dispatcher.refuses_of_open ho) hb
  rw [hresult, hnext]
  exact ⟨_, rfl, rfl, rfl, rfl, (Dispatcher.closed_taking _ _).trans ho, rfl, rfl, rfl, rfl⟩

/-- A test of the sinks records its finding and leaves the setup alone. -/
theorem sendTest_of_open {m : Monitor} {c : Circumstances} (ho : m.dispatcher.closed = false) :
    (m.sendTest c).monitor.ledger = m.ledger.record (m.testFinding c) ∧
      (m.sendTest c).monitor.dispatcher.closed = false ∧ SameSetup m (m.sendTest c).monitor := by
  rw [sendTest_of_accepts (Dispatcher.refuses_of_open ho)]
  exact ⟨rfl, (Dispatcher.closed_taking _ _).trans ho, rfl, rfl, rfl, rfl⟩

/-! ### In step with a log -/

/-- **In step with a log.**  The monitor `m` watches what `start` watched, takes jobs, and has recorded the
findings of `log`. -/
structure Follows (start m : Monitor) (log : List Finding) : Prop where
  setup : SameSetup start m
  isOpen : m.dispatcher.closed = false
  limit : m.ledger.limit = start.ledger.limit
  window : m.ledger.window = start.ledger.window
  tracks : m.ledger.Tracks log

variable {start m : Monitor} {log : List Finding} {c : Circumstances}

/-- A test of the sinks records one finding. -/
theorem Follows.sendTest (h : Follows start m log) (hl : 1 ≤ start.ledger.limit)
    (c : Circumstances) :
    Follows start (m.sendTest c).monitor (log ++ [m.testFinding c]) := by
  obtain ⟨hledger, hopen, hsetup⟩ := sendTest_of_open (c := c) h.isOpen
  exact
    { setup := h.setup.trans hsetup
      isOpen := hopen
      limit := by rw [hledger, Ledger.limit_record, h.limit]
      window := by rw [hledger, Ledger.window_record, h.window]
      tracks := by
        rw [hledger]
        exact h.tracks.record (h.limit ▸ hl) _ }

/-- Tests of the sinks record one finding each. -/
theorem Follows.sendTests (h : Follows start m log) (hl : 1 ≤ start.ledger.limit)
    (tests : List Circumstances) :
    ∃ added : List Finding, added.length = tests.length ∧
      (∀ f ∈ added, f.category = testCategory) ∧
      Follows start (m.sendTests tests) (log ++ added) := by
  induction tests generalizing m log with
  | nil => exact ⟨[], rfl, by simp, by rwa [List.append_nil]⟩
  | cons c tests ih =>
    obtain ⟨added, hlen, hcat, hf⟩ := ih (h.sendTest hl c)
    refine ⟨m.testFinding c :: added, by rw [List.length_cons, List.length_cons, hlen], ?_, ?_⟩
    · exact List.forall_mem_cons.mpr ⟨rfl, hcat⟩
    · rwa [List.append_assoc] at hf

/-- A scan leaves monitor and log in step if the ledger stays in step with the log. -/
theorem Follows.of_scan {log' : List Finding} (h : Follows start m log)
    (hledger : (m.scan c).monitor.ledger = (m.ledger.acceptAll (m.rawFindings c)).1)
    (hopen : (m.scan c).monitor.dispatcher.closed = false)
    (hsetup : SameSetup m (m.scan c).monitor)
    (ht : (m.ledger.acceptAll (m.rawFindings c)).1.Tracks log') :
    Follows start (m.scan c).monitor log' where
  setup := h.setup.trans hsetup
  isOpen := hopen
  limit := by rw [hledger, Ledger.limit_acceptAll, h.limit]
  window := by rw [hledger, Ledger.window_acceptAll, h.window]
  tracks := hledger ▸ ht

/-- While the log exceeds neither window nor limit, a scan that sees only keys of the log reports
nothing. -/
theorem Follows.scan_known (h : Follows start m log) (hb : c.busy = false)
    (hlen : log.length ≤ min start.ledger.window start.ledger.limit)
    (hk : ∀ f ∈ m.rawFindings c, f.key ∈ log.map Finding.key) :
    ∃ r, (m.scan c).result = .ok r ∧ r.findings = [] ∧ Follows start (m.scan c).monitor log := by
  obtain ⟨r, hr, hfound, -, hledger, hopen, hsetup⟩ := scan_of_open hb h.isOpen
  have hquiet : m.ledger.acceptAll (m.rawFindings c) = (m.ledger, []) := by
    refine Ledger.acceptAll_of_isRepeat fun f hf => h.tracks.isRepeat_of_mem ?_ (hk f hf)
    rwa [h.window, h.limit]
  refine ⟨r, hr, by rw [hfound, hquiet], h.of_scan hledger hopen hsetup ?_⟩
  rw [hquiet]
  exact h.tracks

/-- A scan that sees only keys out of sight reports each of them once. -/
theorem Follows.scan_unseen (h : Follows start m log) (hl : 1 ≤ start.ledger.limit)
    (hw : 1 ≤ start.ledger.window) (hb : c.busy = false) (hc : Clustered (m.rawFindings c))
    (hu : Ledger.Unseen (min start.ledger.window start.ledger.limit) (log.map Finding.key)
      (m.distinctKeys c)) :
    ∃ r, (m.scan c).result = .ok r ∧ r.findings.map Finding.key = m.distinctKeys c ∧
      Follows start (m.scan c).monitor (log ++ r.findings) := by
  obtain ⟨r, hr, hfound, -, hledger, hopen, hsetup⟩ := scan_of_open hb h.isOpen
  rw [← h.limit, ← h.window, distinctKeys_eq_rawFindings] at hu
  rw [← h.limit] at hl
  rw [← h.window] at hw
  obtain ⟨hkeys, ht⟩ := Ledger.acceptAll_of_unseen hc hl hw h.tracks hu
  refine ⟨r, hr, by rw [hfound, hkeys, distinctKeys_eq_rawFindings], h.of_scan hledger hopen hsetup ?_⟩
  rwa [hfound]

/-! ### From a fresh monitor on -/

/-- A monitor as it is made from a configuration, without a probe. -/
structure IsFresh (m : Monitor) : Prop where
  probe : m.probe = .absent
  detector : ∃ keywords overrides maxFileBytes,
    m.detector = .ofCatalog (.build keywords overrides) maxFileBytes
  isOpen : m.dispatcher.closed = false
  limit_pos : 1 ≤ m.ledger.limit
  window_pos : 1 ≤ m.ledger.window
  entries : m.ledger.entries = []

variable {tree : Folder} {first again : Circumstances} {before fs added : List Finding}

theorem IsFresh.follows (h : start.IsFresh) : Follows start start [] where
  setup := .refl start
  isOpen := h.isOpen
  limit := rfl
  window := rfl
  tracks := by
    have hnil := Ledger.tracks_nil start.ledger.limit start.ledger.window
    rwa [← h.entries] at hnil ⊢

theorem IsFresh.clustered (h : start.IsFresh) (hs : SameSetup start m)
    (hw : c.files.isWellFormed = true) : Clustered (m.rawFindings c) := by
  obtain ⟨keywords, overrides, maxFileBytes, hd⟩ := h.detector
  exact clustered_rawFindings (hs.probe ▸ h.probe) (hs.detector ▸ hd) hw

theorem IsFresh.category_of_mem (h : start.IsFresh) {f : Finding} (hf : f ∈ start.rawFindings c) :
    f.category ≠ testCategory := by
  obtain ⟨keywords, overrides, maxFileBytes, hd⟩ := h.detector
  exact category_of_mem_rawFindings h.probe hd hf

/-- Every scan of a tree sees the same distinct keys. -/
theorem IsFresh.distinctKeys_eq (h : start.IsFresh) (hs : SameSetup start m)
    (hfirst : first.Shows tree) (hagain : again.Shows tree) :
    m.distinctKeys again = start.distinctKeys first := by
  rw [distinctKeys_eq_rawFindings, distinctKeys_eq_rawFindings,
    keys_rawFindings hs h.probe (hfirst.files.trans hagain.files.symm)]

theorem nodup_distinctKeys (m : Monitor) (c : Circumstances) : (m.distinctKeys c).Nodup :=
  nodup_eraseDups _

/-- The first scan reports each key once. -/
theorem IsFresh.scan_first (h : start.IsFresh) (ht : tree.isWellFormed = true)
    (hfirst : first.Shows tree) :
    ∃ r, (start.scan first).result = .ok r ∧
      r.findings.map Finding.key = start.distinctKeys first ∧
      Follows start (start.scan first).monitor r.findings := by
  have hc := h.clustered (.refl start) (hfirst.files ▸ ht)
  exact h.follows.scan_unseen h.limit_pos h.window_pos hfirst.idle hc
    (Ledger.unseen_of_disjoint _ (nodup_distinctKeys start first) (by simp))

/-- **Never again.**  While all that was recorded fits into window and limit, a scan of the tree that was
reported reports nothing. -/
theorem Follows.rescan_quiet (hf : Follows start m (fs ++ added)) (h : start.IsFresh)
    (hfirst : first.Shows tree) (hagain : again.Shows tree)
    (hkeys : fs.map Finding.key = start.distinctKeys first)
    (hlen : fs.length + added.length ≤ min start.ledger.window start.ledger.limit) :
    ∃ r, (m.scan again).result = .ok r ∧ r.findings = [] ∧
      Follows start (m.scan again).monitor (fs ++ added) := by
  refine hf.scan_known hagain.idle (by rwa [List.length_append]) fun f hm => ?_
  have hraw : f.key ∈ m.distinctKeys again := by
    rw [distinctKeys_eq_rawFindings]
    exact List.mem_eraseDups.mpr (List.mem_map_of_mem hm)
  rw [h.distinctKeys_eq hf.setup hfirst hagain, ← hkeys] at hraw
  rw [List.map_append]
  exact List.mem_append_left _ hraw

/-- **Completely again.**  When what was recorded since the tree was reported last does not fit into
window and limit, a scan reports the tree in full. -/
theorem Follows.rescan_full (hf : Follows start m (before ++ fs ++ added)) (h : start.IsFresh)
    (ht : tree.isWellFormed = true) (hfirst : first.Shows tree) (hagain : again.Shows tree)
    (hkeys : fs.map Finding.key = start.distinctKeys first)
    (hadded : ∀ f ∈ added, f.category = testCategory)
    (hlen : min start.ledger.window start.ledger.limit < fs.length + added.length) :
    ∃ r, (m.scan again).result = .ok r ∧
      r.findings.map Finding.key = start.distinctKeys first ∧
      Follows start (m.scan again).monitor (before ++ fs ++ added ++ r.findings) := by
  have hsame := h.distinctKeys_eq hf.setup hfirst hagain
  have hc := h.clustered hf.setup (hagain.files ▸ ht)
  -- a test of the sinks has none of the keys of the tree
  have hothers : ∀ k ∈ start.distinctKeys first, k ∉ added.map Finding.key := by
    intro k hk hm
    rw [distinctKeys_eq_rawFindings] at hk
    obtain ⟨f, hraw, rfl⟩ := List.mem_map.mp (List.mem_eraseDups.mp hk)
    obtain ⟨g, hg, he⟩ := List.mem_map.mp hm
    have hcategory : g.category = f.category := (RepeatKey.mk.inj he).2.1
    exact h.category_of_mem hraw (hcategory ▸ hadded g hg)
  have hu := Ledger.unseen_again (before.map Finding.key) (nodup_distinctKeys start first) hothers
    (by rwa [← hkeys, List.length_map, List.length_map])
  rw [← hsame]
  refine hf.scan_unseen h.limit_pos h.window_pos hagain.idle hc ?_
  rwa [hsame, List.map_append, List.map_append, hkeys]

/-! ### The main theorem -/

/-- What a later scan of a tree with the distinct keys `keys` yields when `recorded` findings were
recorded since the scan before: no finding if they fit into `bound`, and otherwise all keys again. -/
def ReportsAgain (keys : List RepeatKey) (recorded : ℕ) (bound : Int)
    (result : Except MonitorFault Report) : Prop :=
  ∃ r, result = .ok r ∧ (recorded ≤ bound → r.findings = []) ∧
    (bound < recorded → r.findings.map Finding.key = keys)

theorem ReportsAgain.of_fits {keys : List RepeatKey} {recorded : ℕ} {bound : Int}
    {result : Except MonitorFault Report} (hfits : recorded ≤ bound)
    (h : ∃ r, result = .ok r ∧ r.findings = []) : ReportsAgain keys recorded bound result := by
  obtain ⟨r, hr, hnone⟩ := h
  exact ⟨r, hr, fun _ => hnone, fun hlong => absurd hlong (Int.not_lt.mpr hfits)⟩

theorem ReportsAgain.of_exceeds {keys : List RepeatKey} {recorded : ℕ} {bound : Int}
    {result : Except MonitorFault Report} (hlong : bound < recorded)
    (h : ∃ r, result = .ok r ∧ r.findings.map Finding.key = keys) :
    ReportsAgain keys recorded bound result := by
  obtain ⟨r, hr, hall⟩ := h
  exact ⟨r, hr, fun hfits => absurd hlong (Int.not_lt.mpr hfits), fun _ => hall⟩

/-- Scans one after the other that see a tree that was reported yield nothing, if the tree fits. -/
theorem Follows.scans_quiet (hf : Follows start m fs) (h : start.IsFresh)
    (hfirst : first.Shows tree) (hkeys : fs.map Finding.key = start.distinctKeys first)
    (hlen : fs.length ≤ min start.ledger.window start.ledger.limit) {further : List Circumstances}
    (hfurther : ∀ c ∈ further, c.Shows tree) :
    ∀ result ∈ m.scans further, ∃ r, result = .ok r ∧ r.findings = [] := by
  induction further generalizing m with
  | nil => simp [scans]
  | cons c further ih =>
    obtain ⟨hc, hrest⟩ := List.forall_mem_cons.mp hfurther
    rw [← List.append_nil fs] at hf
    obtain ⟨r, hr, hnone, hnext⟩ := hf.rescan_quiet h hfirst hc hkeys hlen
    rw [List.append_nil] at hnext
    intro result hm
    rcases List.mem_cons.mp hm with rfl | hm
    · exact ⟨r, hr, hnone⟩
    · exact ih hnext hrest result hm

/-- Scans one after the other yield all of a tree each time, if the tree does not fit.  What was recorded
before the last report does not matter. -/
theorem Follows.scans_full (hf : Follows start m (before ++ fs)) (h : start.IsFresh)
    (ht : tree.isWellFormed = true) (hfirst : first.Shows tree)
    (hkeys : fs.map Finding.key = start.distinctKeys first)
    (hlen : min start.ledger.window start.ledger.limit < (start.distinctKeys first).length)
    {further : List Circumstances} (hfurther : ∀ c ∈ further, c.Shows tree) :
    ∀ result ∈ m.scans further,
      ∃ r, result = .ok r ∧ r.findings.map Finding.key = start.distinctKeys first := by
  induction further generalizing m before fs with
  | nil => simp [scans]
  | cons c further ih =>
    obtain ⟨hc, hrest⟩ := List.forall_mem_cons.mp hfurther
    rw [← List.append_nil (before ++ fs)] at hf
    have hlong : min start.ledger.window start.ledger.limit < fs.length + ([] : List Finding).length := by
      rwa [← hkeys, List.length_map] at hlen
    obtain ⟨r, hr, hall, hnext⟩ := hf.rescan_full h ht hfirst hc hkeys (by simp) hlong
    rw [List.append_nil] at hnext
    intro result hm
    rcases List.mem_cons.mp hm with rfl | hm
    · exact ⟨r, hr, hall⟩
    · exact ih hnext hall hrest result hm

/-- A monitor can be made for a root that is a folder, if limit and window are at least one. -/
theorem create_of_checkRoot {config : Config} {files : Folder} (hroot : config.checkRoot files = .ok ())
    (hw : 1 ≤ config.window) (hl : 1 ≤ config.historyLimit) (env : Environment) (voice : Voice)
    (sinks : Option (List Sink)) :
    ∃ events m, create config files env voice sinks .absent = (events, .ok m) ∧ m.IsFresh ∧
      m.ledger = ⟨config.historyLimit.toNat, config.window.toNat, []⟩ := by
  simp only [create, hroot, Ledger.create_of_pos hl hw]
  refine ⟨_, _, rfl, ?_, rfl⟩
  exact
    { probe := rfl
      detector := ⟨_, _, _, rfl⟩
      isOpen := rfl
      limit_pos := by show 1 ≤ config.historyLimit.toNat; omega
      window_pos := by show 1 ≤ config.window.toNat; omega
      entries := rfl }

/-- **Never again or completely again.**  The monitor of a valid configuration reports each distinct key of
a tree once in its first scan.  After `tests` tests of the sinks, a scan of the unchanged tree reports
nothing if the keys and the tests together exceed neither window nor limit, and all keys again otherwise;
and without tests every further scan does the same. -/
theorem rescan_dichotomy {config : Config} {files tree : Folder}
    (hroot : config.checkRoot files = .ok ()) (hw : 1 ≤ config.window) (hl : 2 ≤ config.historyLimit)
    (ht : tree.isWellFormed = true) (env : Environment) (voice : Voice) (sinks : Option (List Sink)) :
    ∃ events m, create config files env voice sinks .absent = (events, .ok m) ∧
      ∀ first : Circumstances, first.Shows tree →
        (∃ r, (m.scan first).result = .ok r ∧ r.findings.map Finding.key = m.distinctKeys first) ∧
        (∀ (tests : List Circumstances) (again : Circumstances), again.Shows tree →
          ReportsAgain (m.distinctKeys first) ((m.distinctKeys first).length + tests.length)
            (min config.window config.historyLimit)
            (((m.scan first).monitor.sendTests tests).scan again).result) ∧
        ∀ further : List Circumstances, (∀ c ∈ further, c.Shows tree) →
          ∀ result ∈ (m.scan first).monitor.scans further,
            ReportsAgain (m.distinctKeys first) (m.distinctKeys first).length
              (min config.window config.historyLimit) result := by
  obtain ⟨events, m, hcreate, h, hledger⟩ :=
    create_of_checkRoot hroot hw (by omega) env voice sinks
  have hwindow : m.ledger.window = config.window.toNat := by rw [hledger]
  have hlimit : m.ledger.limit = config.historyLimit.toNat := by rw [hledger]
  refine ⟨events, m, hcreate, fun first hfirst => ?_⟩
  obtain ⟨r, hr, hkeys, hf⟩ := h.scan_first ht hfirst
  have hcount : r.findings.length = (m.distinctKeys first).length := by
    rw [← hkeys, List.length_map]
  refine ⟨⟨r, hr, hkeys⟩, fun tests again hagain => ?_, fun further hfurther result hm => ?_⟩
  · obtain ⟨added, hadded, hcategory, hf⟩ := hf.sendTests h.limit_pos tests
    by_cases hfits : r.findings.length + added.length ≤ min m.ledger.window m.ledger.limit
    · obtain ⟨r', hr', hnone, -⟩ := hf.rescan_quiet h hfirst hagain hkeys hfits
      exact .of_fits (by omega) ⟨r', hr', hnone⟩
    · rw [← List.nil_append r.findings] at hf
      obtain ⟨r', hr', hall, -⟩ := hf.rescan_full h ht hfirst hagain hkeys hcategory (by omega)
      exact .of_exceeds (by omega) ⟨r', hr', hall⟩
  · by_cases hfits : r.findings.length ≤ min m.ledger.window m.ledger.limit
    · exact .of_fits (by omega) (hf.scans_quiet h hfirst hkeys hfits hfurther result hm)
    · rw [← List.nil_append r.findings] at hf
      exact .of_exceeds (by omega)
        (hf.scans_full h ht hfirst hkeys (by omega) hfurther result hm)

/-- The default configuration with the smallest window and the smallest limit. -/
def tightConfig : Config :=
  { Config.default with window := 1, historyLimit := 2 }

/-- A tree with one file, in which a keyword and a dangerous call are found. -/
def twoKeyTree : Folder :=
  [("a.py", .file (Text.Utf8.encode "malware eval(".toList))]

/-- Circumstances that show the tree, with nothing else going on. -/
def twoKeyCircumstances : Circumstances :=
  ⟨twoKeyTree, ⟨0⟩, false, "", .calm⟩

/-- The keys of the tree. -/
def twoKeys : List RepeatKey :=
  [⟨"a.py", keywordCategory, some "malware"⟩, ⟨"a.py", executionCategory, none⟩]

theorem isWellFormed_twoKeyTree : twoKeyTree.isWellFormed = true := by
  simp [Folder.isWellFormed, twoKeyTree, Folder.isProperName, Path.isIdle, Folder.isLongName, Folder.longestName]
  decide

/-- What the configuration finds in the text of the file. -/
theorem keys_inspect_twoKeyTree :
    ((Detector.ofCatalog tightConfig.catalog tightConfig.maxFileBytes).inspect ⟨"", ⟨0⟩, 1⟩ "a.py"
      (Detector.textOf (Text.Utf8.encode "malware eval(".toList))).map Finding.key = twoKeys := by
  decide +kernel

/-- The tree has two distinct keys for the monitor of the configuration. -/
theorem distinctKeys_twoKeyTree {m : Monitor}
    (hm : (create tightConfig twoKeyTree [] .silent none .absent).2 = .ok m) :
    m.distinctKeys twoKeyCircumstances = twoKeys := by
  obtain ⟨ledger, -, -, rfl⟩ := eq_initial_of_create hm
  generalize Option.getD _ _ = sinks
  have hselects : (Walker.ofLists (stringsOf tightConfig.ignored) (stringsOf tightConfig.extensions)).selectsName
      "a.py" = true := by
    obtain ⟨hmem, hnormal, hextension⟩ : ".py" ∈ stringsOf tightConfig.extensions ∧
        normalExtension? ".py" = some ".py" ∧
          String.ofList (Text.lower (extensionOf "a.py".toList)) = ".py" := by
      decide +kernel
    rw [Walker.selectsName_ofLists, hextension]
    exact ⟨".py", hmem, hnormal⟩
  have hwalk : (initial tightConfig ledger sinks .absent).walker.traverse twoKeyTree tightConfig.root =
      ⟨[], [tightConfig.root.child "a.py"]⟩ :=
    Walker.traverse_singleFile _ (resolve_defaultRoot _) hselects
  have hrender : (tightConfig.root.child "a.py").render = "a.py" := by decide +kernel
  have hfile : twoKeyTree.readFile "a.py" = .ok (Text.Utf8.encode "malware eval(".toList) :=
    Folder.readFile_of_mem isWellFormed_twoKeyTree List.mem_cons_self
  have hsmall : ((Text.Utf8.encode "malware eval(".toList).length : ℤ) ≤ tightConfig.maxFileBytes ∧
      0 ∉ (Text.Utf8.encode "malware eval(".toList).take sniffedBytes := by
    decide +kernel
  have hinspect := Detector.scanFile_of_readFile (d := (initial tightConfig ledger sinks .absent).detector) hfile
    hsmall.1 hsmall.2 ⟨"", ⟨0⟩, 1⟩
  have hseen : (initial tightConfig ledger sinks .absent).seen twoKeyCircumstances =
      (Detector.ofCatalog tightConfig.catalog tightConfig.maxFileBytes).inspect ⟨"", ⟨0⟩, 1⟩ "a.py"
        (Detector.textOf (Text.Utf8.encode "malware eval(".toList)) := by
    show ((initial tightConfig ledger sinks .absent).walker.traverse twoKeyTree tightConfig.root).files.flatMap _ ++ []
      = _
    rw [hwalk, List.flatMap_singleton, List.append_nil, hrender, ← Detector.scanFile_eq_findingsIn]
    exact congrArg Prod.snd hinspect
  rw [distinctKeys, hseen, keys_inspect_twoKeyTree]
  decide

theorem rescan_dichotomy_twoKeyTree :
    ∃ events m, create tightConfig twoKeyTree [] .silent none .absent = (events, .ok m) ∧
      m.distinctKeys twoKeyCircumstances = twoKeys ∧
      (∃ r, (m.scan twoKeyCircumstances).result = .ok r ∧
        r.findings.map Finding.key = m.distinctKeys twoKeyCircumstances) ∧
      ReportsAgain (m.distinctKeys twoKeyCircumstances)
        ((m.distinctKeys twoKeyCircumstances).length + 1) 1
        (((m.scan twoKeyCircumstances).monitor.sendTests [twoKeyCircumstances]).scan
          twoKeyCircumstances).result := by
  obtain ⟨events, m, hcreate, h⟩ := @rescan_dichotomy tightConfig twoKeyTree twoKeyTree (checkRoot_default twoKeyTree)
    (by decide) (by decide) isWellFormed_twoKeyTree [] .silent none
  have hshows : twoKeyCircumstances.Shows twoKeyTree := ⟨rfl, rfl⟩
  obtain ⟨hfirst, hagain, -⟩ := h twoKeyCircumstances hshows
  exact ⟨events, m, hcreate, distinctKeys_twoKeyTree (congrArg Prod.snd hcreate), hfirst,
    hagain [twoKeyCircumstances] twoKeyCircumstances hshows⟩

end Monitor

end SourceWatch

import SourceWatch.Proofs.Detector.Earliest
import SourceWatch.Proofs.Monitor.Rescan
import SourceWatch.Proofs.Monitor.Resilience

/-!
# No duplicate inside a scan

A scan takes no two findings of the files that share a key, and each that it takes is the first with its key.
That holds for every ledger, however small its window is.  So in one file it takes at most one finding about
credentials and one about dangerous calls, and both are those of the earliest rules that the text satisfies.

Main definitions:

* `Monitor.taken`, `Monitor.takenInFiles`: the findings that the next scan takes;
* `Monitor.TakesFirsts`: a scan takes firsts;
* `Monitor.Tells`: the findings that an operation may record, report or hand out;
* `NeverTells`: no operation of a run tells of a rule.

Main statements:

* `Monitor.IsConfigured.takesFirsts`: every scan of a configured monitor takes firsts;
* `Run.scan_takes_firsts`: so do all scans, whatever the ledger, and no run tells of `shell_exec`.
-/

namespace SourceWatch

/-- A finding in a file is one in its text. -/
theorem Detector.exists_read_of_mem {d : Detector} {top : Folder} {stamp : Stamp} {path : String}
    {f : Finding} (h : f ∈ d.findingsIn top stamp path) :
    ∃ content, d.read top path = .ok (.text content) ∧
      d.findingsIn top stamp path = d.inspect stamp path content := by
  unfold findingsIn at h ⊢
  split at h
  · next content hread => exact ⟨content, hread, rfl⟩
  · cases h

/-- An anomaly is found by no rule. -/
theorem Probe.rule_of_mem_findings {p : Probe} {stamp : Stamp} {f : Finding}
    (h : f ∈ p.findings stamp) : f.rule = none ∧ f.matchedKeyword = none := by
  unfold findings at h
  split at h
  · obtain ⟨a, _, rfl⟩ := List.mem_map.mp h
    exact ⟨rfl, rfl⟩
  · cases h

namespace Monitor

/-- The findings in the files that the next scan walks, in the order of the walk. -/
def fileFindings (m : Monitor) (c : Circumstances) : List Finding :=
  (m.walked c).flatMap fun p => m.detector.findingsIn c.files (m.nextStamp c) p.render

/-- The findings that the next scan takes: those that it reports, or else the one at which it breaks off. -/
def taken (m : Monitor) (c : Circumstances) : List Finding :=
  match m.breakingPoint c with
  | some f => [f]
  | none => m.novel c

/-- The findings that the next scan takes from files. -/
def takenInFiles (m : Monitor) (c : Circumstances) : List Finding :=
  (m.taken c).filter (· ∈ m.fileFindings c)

/-- The monitor with another ledger. -/
def holding (m : Monitor) (l : Ledger) : Monitor :=
  { m with ledger := l }

/-- **A scan takes firsts.**  What it takes is what it records and reports, and it hands out nothing else.  From
the files it takes no two findings with one key, and each is the first that there is with its key. -/
structure TakesFirsts (m : Monitor) (c : Circumstances) : Prop where
  records : c.busy = false → (m.scan c).monitor.ledger = m.ledger.recordAll (m.taken c)
  reports : ∀ r, (m.scan c).result = .ok r → r.findings = m.taken c
  handsOut : ∀ job ∈ m.jobs c .scan, ∃ f ∈ m.taken c, job.payload = .finding f
  distinct : ((m.takenInFiles c).map Finding.key).Nodup
  first : ∀ f ∈ m.takenInFiles c, IsFirst (m.rawFindings c) f
  /-- Keywords apart, a file contributes at most one finding to each category. -/
  oneEach : ∀ path category, category ≠ keywordCategory →
    ((m.takenInFiles c).filter fun f => f.filePath = path ∧ f.category = category).length ≤ 1
  earliest : ∀ f ∈ m.takenInFiles c, f.category ≠ keywordCategory →
    ∃ content rule, m.detector.read c.files f.filePath = .ok (.text content) ∧
      earliestRule? f.category content = some rule ∧
      f = Detector.structuralFinding (m.nextStamp c) f.filePath rule
  noShellExec : ∀ f ∈ m.taken c, f.rule ≠ some "shell_exec_call"

/-- The detector is that of a configuration, and the ledger looks back at one entry at least. -/
structure IsConfigured (m : Monitor) : Prop where
  detector : ∃ keywords overrides maxFileBytes,
    m.detector = .ofCatalog (.build keywords overrides) maxFileBytes
  window : 1 ≤ m.ledger.window

variable {m n s : Monitor} {c : Circumstances} {a : Action} {f : Finding} {jobs : List Job}

/-! ### What a scan takes -/

/-- A scan that breaks off takes the first of what it would have reported. -/
theorem taken_sublist_novel (m : Monitor) (c : Circumstances) : (m.taken c).Sublist (m.novel c) := by
  unfold taken
  split
  · next f hbreak =>
    rw [breakingPoint] at hbreak
    split at hbreak
    · rw [Ledger.firstNew?_eq_head?] at hbreak
      exact List.singleton_sublist.mpr (List.mem_of_mem_head? hbreak)
    · cases hbreak
  · exact List.Sublist.refl _

/-- An attempt to scan reports and hands out what is taken, and records it. -/
theorem Attempt.takes {result : Except MonitorFault Report} (h : Attempt m c n result jobs) :
    (c.busy = false → n.ledger = m.ledger.recordAll (m.taken c)) ∧
      (∀ r, result = .ok r → r.findings = m.taken c) ∧
      ∀ job ∈ jobs, ∃ f ∈ m.taken c, job.payload = .finding f := by
  cases h with
  | skipped busy => exact ⟨fun idle => by simp [busy] at idle, by simp, by simp⟩
  | completed idle whole =>
    have htaken : m.taken c = m.novel c := by rw [taken, whole]
    rw [htaken]
    refine ⟨fun _ => m.ledger.acceptAll_eq_recordAll _, ?_, fun job hjob => ?_⟩
    · rintro r hr
      cases hr
      rfl
    · obtain ⟨f, hf, hjob⟩ := List.mem_flatMap.mp hjob
      exact ⟨f, hf, (Dispatcher.mem_jobsFor.mp hjob).2⟩
  | brokenOff idle f breaks =>
    have htaken : m.taken c = [f] := by rw [taken, breaks]
    rw [htaken]
    exact ⟨fun _ => rfl, by simp, by simp⟩

/-- What the ledger holds after an attempt to scan, it held before or has taken. -/
theorem Attempt.entries_subset {result : Except MonitorFault Report} (h : Attempt m c n result jobs) :
    n.ledger.entries ⊆ m.ledger.entries ++ m.taken c := by
  cases h with
  | skipped => exact List.subset_append_left _ _
  | completed _ whole =>
    rw [taken, whole]
    exact m.ledger.entries_acceptAll_subset _
  | brokenOff _ f breaks =>
    rw [taken, breaks]
    exact m.ledger.entries_record_subset f

/-- What is taken comes from the files or from the probe. -/
theorem mem_of_mem_taken (h : f ∈ m.taken c) :
    f ∈ m.takenInFiles c ∨ f ∈ m.probe.findings (m.nextStamp c) := by
  have hseen : f ∈ m.seen c := by
    rw [← rawFindings_eq_seen]
    exact (m.ledger.acceptAll_sublist _).subset ((m.taken_sublist_novel c).subset h)
  exact (List.mem_append.mp hseen).imp_left fun hfiles =>
    List.mem_filter.mpr ⟨h, decide_eq_true hfiles⟩

/-- A finding of the files tells of a rule or of a keyword, so no anomaly looks like it. -/
theorem not_mem_probe_of_mem_fileFindings (h : f ∈ m.fileFindings c) :
    f ∉ m.probe.findings (m.nextStamp c) := by
  intro hprobe
  obtain ⟨hrule, hkeyword⟩ := Probe.rule_of_mem_findings hprobe
  obtain ⟨p, -, hf⟩ := List.mem_flatMap.mp h
  obtain ⟨content, -, hinspect⟩ := Detector.exists_read_of_mem hf
  rw [hinspect] at hf
  rcases List.mem_append.mp hf with hf | hf
  · obtain ⟨rule, _, rfl⟩ := List.mem_map.mp hf
    cases hkeyword
  · obtain ⟨rule, _, rfl⟩ := List.mem_map.mp hf
    cases hrule

/-- What is taken from the files is taken as if there was no probe. -/
theorem takenInFiles_sublist (m : Monitor) (c : Circumstances) :
    (m.takenInFiles c).Sublist (m.ledger.acceptAll (m.fileFindings c)).2 := by
  refine ((m.taken_sublist_novel c).filter _).trans ?_
  rw [novel, rawFindings_eq_seen, show m.seen c = m.fileFindings c ++ m.probe.findings (m.nextStamp c) from rfl,
    Ledger.acceptAll_append, List.filter_append]
  have hnone : (((m.ledger.acceptAll (m.fileFindings c)).1.acceptAll
      (m.probe.findings (m.nextStamp c))).2.filter (· ∈ m.fileFindings c)) = [] := by
    rw [List.filter_eq_nil_iff]
    intro f hf hfiles
    exact not_mem_probe_of_mem_fileFindings (of_decide_eq_true hfiles) ((Ledger.acceptAll_sublist _ _).subset hf)
  rw [hnone, List.append_nil]
  exact List.filter_sublist

namespace IsConfigured

/-- In one file, findings with equal keys come in a row. -/
theorem clustered_findingsIn (h : m.IsConfigured) (top : Folder) (stamp : Stamp) (path : String) :
    Clustered (m.detector.findingsIn top stamp path) := by
  obtain ⟨keywords, overrides, maxFileBytes, hd⟩ := h.detector
  rw [hd, ← Detector.scanFile_eq_findingsIn]
  exact Detector.clustered_scanFile _ _ _ _ _ _

/-- In all files, they come in a row because no file is walked twice. -/
theorem clustered_fileFindings (h : m.IsConfigured) (hw : c.files.isWellFormed = true) :
    Clustered (m.fileFindings c) := by
  obtain ⟨keywords, overrides, maxFileBytes, hd⟩ := h.detector
  have hraw := clustered_rawFindings (m := m.probing .absent) rfl hd hw
  rw [rawFindings_eq_seen] at hraw
  rwa [show (m.probing .absent).seen c = m.fileFindings c ++ [] from rfl, List.append_nil] at hraw

/-- What is taken from a file is the first in its text with its key, also if the file is walked twice. -/
theorem exists_isFirst (h : m.IsConfigured) (hf : f ∈ m.takenInFiles c) :
    ∃ path content, m.detector.read c.files path = .ok (.text content) ∧
      IsFirst (m.detector.inspect (m.nextStamp c) path content) f := by
  obtain ⟨p, -, hfirst⟩ := Ledger.exists_part_of_mem_acceptAll
    (fun p _ => h.clustered_findingsIn c.files (m.nextStamp c) p.render) h.window
    ((m.takenInFiles_sublist c).subset hf)
  obtain ⟨content, hread, hinspect⟩ := Detector.exists_read_of_mem hfirst.mem
  exact ⟨p.render, content, hread, hinspect ▸ hfirst⟩

/-- No scan takes a finding about `shell_exec`. -/
theorem rule_ne_of_mem_taken (h : m.IsConfigured) (hf : f ∈ m.taken c) :
    f.rule ≠ some "shell_exec_call" := by
  obtain ⟨keywords, overrides, maxFileBytes, hd⟩ := h.detector
  rcases mem_of_mem_taken hf with hfiles | hprobe
  · obtain ⟨path, content, -, hfirst⟩ := h.exists_isFirst hfiles
    rw [hd] at hfirst
    exact Detector.rule_ne_of_isFirst hfirst
  · rw [(Probe.rule_of_mem_findings hprobe).1]
    exact Option.some_ne_none _ |>.symm

/-- What is taken from a file, keywords apart, is the finding of the earliest rule of its category. -/
theorem earliest_of_mem (h : m.IsConfigured) (hf : f ∈ m.takenInFiles c) (hc : f.category ≠ keywordCategory) :
    ∃ content rule, m.detector.read c.files f.filePath = .ok (.text content) ∧
      earliestRule? f.category content = some rule ∧
      f = Detector.structuralFinding (m.nextStamp c) f.filePath rule := by
  obtain ⟨keywords, overrides, maxFileBytes, hd⟩ := h.detector
  obtain ⟨path, content, hread, hfirst⟩ := h.exists_isFirst hf
  rw [← Detector.filePath_of_mem_inspect hfirst.mem] at hread hfirst
  rw [hd] at hfirst
  obtain ⟨rule, hrule, he⟩ := Detector.eq_structuralFinding_of_isFirst hfirst hc
  exact ⟨content, rule, hread, hrule, he⟩

/-- Keywords apart, what is taken from a file has the key of its category. -/
theorem key_of_mem (h : m.IsConfigured) (hf : f ∈ m.takenInFiles c) (hc : f.category ≠ keywordCategory) :
    f.key = ⟨f.filePath, f.category, none⟩ := by
  obtain ⟨content, rule, -, -, he⟩ := h.earliest_of_mem hf hc
  rw [he]
  rfl

/-- **Every scan of a configured monitor takes firsts,** however little its ledger remembers. -/
theorem takesFirsts (h : m.IsConfigured) (hw : c.files.isWellFormed = true) : m.TakesFirsts c := by
  obtain ⟨hrecords, hreports, hhands⟩ := (scan_attempts m c).takes
  obtain ⟨hnodup, hfirst⟩ := Ledger.acceptAll_takes_firsts (h.clustered_fileFindings hw) h.window
  have hdistinct := hnodup.sublist ((m.takenInFiles_sublist c).map Finding.key)
  exact
    { records := hrecords
      reports := hreports
      handsOut := hhands
      distinct := hdistinct
      first := fun f hf => by
        rw [rawFindings_eq_seen]
        exact (hfirst f ((m.takenInFiles_sublist c).subset hf)).append_right _
      oneEach := fun path category hc => by
        refine length_le_one_of_nodup_keys (k := ⟨path, category, none⟩)
          (hdistinct.sublist (List.filter_sublist.map Finding.key)) fun f hf => ?_
        obtain ⟨htaken, hplace⟩ := List.mem_filter.mp hf
        obtain ⟨rfl, rfl⟩ := of_decide_eq_true hplace
        exact h.key_of_mem htaken hc
      earliest := fun f hf hc => h.earliest_of_mem hf hc
      noShellExec := fun f hf => h.rule_ne_of_mem_taken hf }

end IsConfigured

/-! ### Operations -/

theorem IsConfigured.attempt {result : Except MonitorFault Report} (h : m.IsConfigured)
    (attempt : Attempt m c n result jobs) : n.IsConfigured := by
  cases attempt with
  | skipped => exact h
  | completed => exact ⟨h.detector, (m.ledger.window_acceptAll _).symm ▸ h.window⟩
  | brokenOff => exact ⟨h.detector, h.window⟩

/-- Every operation leaves a configured monitor. -/
theorem IsConfigured.performs {result : Except MonitorFault Answer} (h : m.IsConfigured)
    (performs : Performs m c a n result jobs) : n.IsConfigured := by
  induction performs with
  | scan attempt => exact h.attempt attempt
  | tick attempt => exact h.attempt attempt
  | @started interval n result jobs _ _ _ attempt =>
    have hattempt := IsConfigured.attempt (m := m.announced interval) ⟨h.detector, h.window⟩ attempt
    rw [armTimer_eq]
    exact ⟨hattempt.detector, hattempt.window⟩
  | closeRefused _ ih => exact ih
  | closed _ ih => exact ⟨ih.detector, ih.window⟩
  | _ => exact ⟨h.detector, h.window⟩

theorem IsConfigured.scanner (h : m.IsConfigured) (hs : m.scanner a = some s) : s.IsConfigured := by
  rcases scanner_eq_some hs with ⟨-, rfl⟩ | ⟨interval, -, -, -, -, rfl⟩
  · exact h
  · exact ⟨h.detector, h.window⟩

/-- A monitor is configured as it is made. -/
theorem Made.isConfigured (h : m.Made) : m.IsConfigured := by
  obtain ⟨config, files, env, voice, sinks, probe, h⟩ := h
  obtain ⟨ledger, hledger, -, rfl⟩ := eq_initial_of_create h
  refine ⟨⟨_, _, _, rfl⟩, ?_⟩
  show 1 ≤ ledger.window
  unfold Ledger.create at hledger
  split at hledger
  · cases hledger
  · split at hledger
    · cases hledger
    · cases hledger
      show 1 ≤ config.window.toNat
      omega

/-- The findings that an operation may record, report or hand out: those that its scan takes, and the one of a
test. -/
def Tells (m : Monitor) (c : Circumstances) (a : Action) (f : Finding) : Prop :=
  (∃ s, m.scanner a = some s ∧ f ∈ s.taken c) ∨ a = .test ∧ f = m.testFinding c

/-- An operation hands out no other findings. -/
theorem Performs.tells_of_mem {result : Except MonitorFault Answer} (h : Performs m c a n result jobs)
    {job : Job} (hjob : job ∈ jobs) (hf : job.payload = .finding f) : m.Tells c a f := by
  have hscan : ∀ {s n : Monitor} {result jobs}, m.scanner a = some s → Attempt s c n result jobs →
      job ∈ jobs → m.Tells c a f := by
    intro s n result jobs hs attempt hjob
    obtain ⟨g, hg, hpayload⟩ := attempt.takes.2.2 job hjob
    rw [hf] at hpayload
    cases hpayload
    exact .inl ⟨s, hs, hg⟩
  -- an announcement is no finding
  have hannounced : ∀ text, job ∉ m.dispatcher.jobsFor (.announcement text) := by
    intro text hjob
    rw [(Dispatcher.mem_jobsFor.mp hjob).2] at hf
    cases hf
  cases h with
  | scan attempt => exact hscan rfl attempt hjob
  | tick attempt => exact hscan rfl attempt hjob
  | started idle long accepts attempt =>
    rcases List.mem_append.mp hjob with hjob | hjob
    · exact absurd hjob (hannounced _)
    · exact hscan (scanner_start idle long accepts) attempt hjob
  | stopped => exact absurd hjob (hannounced _)
  | tested =>
    rw [(Dispatcher.mem_jobsFor.mp hjob).2] at hf
    cases hf
    exact .inr ⟨rfl, rfl⟩
  | closeRefused stop =>
    cases stop
    cases hjob
  | closed stop =>
    cases stop with
    | notRunning => cases hjob
    | stopped => exact absurd hjob (hannounced _)
  | _ => cases hjob

/-- It records no others. -/
theorem Performs.tells_of_mem_entries {result : Except MonitorFault Answer} (h : Performs m c a n result jobs)
    (hf : f ∈ n.ledger.entries) : f ∈ m.ledger.entries ∨ m.Tells c a f := by
  have hscan : ∀ {s n : Monitor} {result jobs}, m.scanner a = some s → Attempt s c n result jobs →
      f ∈ n.ledger.entries → f ∈ m.ledger.entries ∨ m.Tells c a f := by
    intro s n result jobs hs attempt hf
    rcases List.mem_append.mp (attempt.entries_subset hf) with hold | hnew
    · exact .inl ((sameBooks_scanner hs).ledger ▸ hold)
    · exact .inr (.inl ⟨s, hs, hnew⟩)
  have htest : f ∈ (m.ledger.record (m.testFinding c)).entries → f ∈ m.ledger.entries ∨ m.Tells c .test f := by
    intro hf
    rcases List.mem_append.mp (m.ledger.entries_record_subset _ hf) with hold | hnew
    · exact .inl hold
    · exact .inr (.inr ⟨rfl, List.mem_singleton.mp hnew⟩)
  cases h with
  | scan attempt => exact hscan rfl attempt hf
  | tick attempt => exact hscan rfl attempt hf
  | started idle long accepts attempt =>
    rw [(sameBooks_armTimer _).ledger] at hf
    exact hscan (scanner_start idle long accepts) attempt hf
  | testRefused => exact htest hf
  | tested => exact htest hf
  | closeRefused stop =>
    cases stop
    exact .inl hf
  | closed stop => cases stop <;> exact .inl hf
  | _ => exact .inl hf

/-- It reports no others. -/
theorem tells_of_report {r : Report} (h : (m.perform c a).result = .ok (.report r)) (hf : f ∈ r.findings) :
    m.Tells c a f := by
  have hperforms := perform_performs m c a
  rw [h] at hperforms
  generalize (m.perform c a).monitor = n at hperforms
  generalize m.jobs c a = jobs at hperforms
  generalize hresult : Except.ok (Answer.report r) = result at hperforms
  cases hperforms with
  | @scan _ result _ attempt =>
    cases result with
    | error fault => cases hresult
    | ok report =>
      cases hresult
      rw [attempt.takes.2.1 r rfl] at hf
      exact .inl ⟨m, rfl, hf⟩
  | _ => cases hresult

/-- No operation of a configured monitor tells of `shell_exec`. -/
theorem IsConfigured.rule_ne_of_tells (h : m.IsConfigured) (hf : m.Tells c a f) :
    f.rule ≠ some "shell_exec_call" := by
  rcases hf with ⟨s, hs, hf⟩ | ⟨-, rfl⟩
  · exact (h.scanner hs).rule_ne_of_mem_taken hf
  · simp [testFinding]

end Monitor

/-! ### Runs -/

/-- No operation of a run tells of a rule: no scan takes a finding of the rule, none is reported or handed out, and
the ledger of the monitor after it holds none. -/
structure NeverTells (name : String) (past : List Moment) (m : Monitor) : Prop where
  taken : ∀ t ∈ past, ∀ s, t.before.scanner t.action = some s →
    ∀ f ∈ s.taken t.circumstances, f.rule ≠ some name
  handedOut : ∀ t ∈ past, ∀ job ∈ t.jobs, ∀ f, job.payload = .finding f → f.rule ≠ some name
  reported : ∀ t ∈ past, ∀ r, t.outcome.result = .ok (.report r) → ∀ f ∈ r.findings, f.rule ≠ some name
  recorded : ∀ f ∈ m.ledger.entries, f.rule ≠ some name

namespace Run

variable {start m : Monitor} {past : List Moment}

theorem isConfigured (made : start.Made) (run : Run start past m) : m.IsConfigured :=
  run.invariant Monitor.IsConfigured made.isConfigured (fun _ _ h => ⟨h.detector, h.window⟩)
    fun _ hperforms h => h.performs hperforms

/-- The ledger of a run holds no finding about `shell_exec`. -/
theorem rule_ne_of_mem_entries (made : start.Made) (run : Run start past m) :
    ∀ f ∈ m.ledger.entries, f.rule ≠ some "shell_exec_call" := by
  induction run with
  | here =>
    obtain ⟨config, ledger, sinks, probe, hnil, rfl⟩ := made.eq_initial
    intro f hf
    rw [Monitor.initial, hnil] at hf
    cases hf
  | probe _ p ih => exact ih
  | step run c a _ ih =>
    intro f hf
    rcases (Monitor.perform_performs _ c a).tells_of_mem_entries hf with hold | hnew
    · exact ih f hold
    · exact (run.isConfigured made).rule_ne_of_tells hnew

/-- No operation of a run tells of `shell_exec`, whatever the trees are like. -/
theorem neverTells_shellExec (made : start.Made) (run : Run start past m) :
    NeverTells "shell_exec_call" past m := by
  have hconfigured : ∀ t ∈ past, t.before.IsConfigured := fun t ht => by
    obtain ⟨earlier, later, -, hrun, -⟩ := run.exists_of_mem ht
    exact hrun.isConfigured made
  exact
    { taken := fun t ht s hs f hf => (hconfigured t ht).rule_ne_of_tells (.inl ⟨s, hs, hf⟩)
      handedOut := fun t ht job hjob f hf =>
        (hconfigured t ht).rule_ne_of_tells ((Monitor.perform_performs _ _ _).tells_of_mem hjob hf)
      reported := fun t ht r hr f hf =>
        (hconfigured t ht).rule_ne_of_tells (Monitor.tells_of_report hr hf)
      recorded := run.rule_ne_of_mem_entries made }

/-- **No duplicate inside a scan.**  After every run, and even if the monitor held another ledger, a scan of any tree
takes firsts; and no operation of a run tells of `shell_exec`. -/
theorem scan_takes_firsts (made : start.Made) (run : Run start past m) :
    (∀ (l : Ledger) (c : Circumstances), 1 ≤ l.window → c.files.isWellFormed = true →
      (m.holding l).TakesFirsts c) ∧ NeverTells "shell_exec_call" past m :=
  ⟨fun _ _ hwindow wellFormed =>
    Monitor.IsConfigured.takesFirsts ⟨(run.isConfigured made).detector, hwindow⟩ wellFormed,
    run.neverTells_shellExec made⟩

/-- A text that satisfies two rules about dangerous calls, of one category. -/
def crowdedText : List Char :=
  "$out = ".toList ++ ("shell_exec".toList ++ " ".toList ++ ['('])

/-- A ledger that looks back at one entry and keeps one. -/
def tightLedger : Ledger :=
  ⟨1, 1, [Monitor.plain.testFinding Monitor.quiet]⟩

theorem scan_takes_firsts_crowdedText :
    let c : Circumstances := { Monitor.quiet with files := [("a.py", .file (Text.Utf8.encode crowdedText))] }
    let m := (Monitor.plain.perform c .scan).monitor
    "exec_call" ∈ satisfiedRules crowdedText ∧ "shell_exec_call" ∈ satisfiedRules crowdedText ∧
      1 ≤ tightLedger.window ∧ c.files.isWellFormed = true ∧ (m.holding tightLedger).TakesFirsts c ∧
      NeverTells "shell_exec_call" [⟨.plain, c, .scan⟩] m := by
  intro c m
  have hw : c.files.isWellFormed = true := by
    simp [c, Folder.isWellFormed, Folder.isProperName, Path.isIdle, Folder.isLongName, Folder.longestName]
    decide
  have hrun := Run.step (@Run.here Monitor.plain) c .scan (by simp [Monitor.Enables])
  obtain ⟨htakes, hnever⟩ := scan_takes_firsts Monitor.made_plain hrun
  have hshell : "shell_exec_call" ∈ satisfiedRules crowdedText :=
    (mem_satisfiedRules_iff_isCall "shell_exec_call" "shell_exec" (by simp [structuralRules])).mpr
      ⟨_, (List.suffix_append _ _).isInfix, " ".toList, rfl, by simp [AllBlank, Text.isBlank]⟩
  exact ⟨exec_of_shellExec hshell, hshell, Nat.le_refl 1, hw, htakes tightLedger c (Nat.le_refl 1) hw, hnever⟩

end Run

end SourceWatch

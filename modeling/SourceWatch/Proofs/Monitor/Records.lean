import SourceWatch.Proofs.Catalog.Keywords
import SourceWatch.Proofs.Detector.Surroundings
import SourceWatch.Proofs.Monitor.Firsts
import SourceWatch.Proofs.Record

/-!
# The threat records of a scan

The record of a finding has one line for each value, and tells the finding, if no value holds a line feed.  The
categories of findings in files, and what their messages say about a keyword or a pattern, are single lines; a path, a
keyword and an anomaly may bring line feeds in, and each of these makes a line more, which may pass for another value.

Main definitions:

* `Folder.HoldsName`: a name in a tree;
* `Monitor.GivenSingleLined`: nothing that the next scan is given holds a line feed;
* `Monitor.RecordsStand`: which records of the next scan stand.

Main statements:

* `Detector.singleLined_iff`: what a finding in a file takes its line feeds from;
* `Run.records_stand`: which records of a scan stand.
-/

namespace SourceWatch

open Text

/-! ### Names in a tree -/

namespace Folder

/-- A name in a tree, of an entry at any depth. -/
inductive HoldsName (name : String) : Folder → Prop
  | entry {folder : Folder} {node : Node} (h : (name, node) ∈ folder) : HoldsName name folder
  | within {folder inner : Folder} {dir : String} (entry : (dir, .folder inner) ∈ folder)
      (h : HoldsName name inner) : HoldsName name folder

/-- Whoever goes down a tree goes by its names. -/
theorem Descends.holdsName {folder last : Folder} {dirs : List String} (h : Descends folder dirs last)
    {name : String} {node : Node} (hm : (name, node) ∈ last) : ∀ n ∈ dirs ++ [name], HoldsName n folder := by
  induction h with
  | here =>
    intro n hn
    rw [List.mem_singleton.mp hn]
    exact .entry hm
  | into entry _ ih =>
    intro n hn
    rcases List.mem_cons.mp hn with rfl | hn
    · exact .entry entry
    · exact .within entry (ih hm n hn)

end Folder

/-! ### Findings in files -/

/-- A structural rule is about credentials or about dangerous calls and addresses. -/
theorem eq_rule_of_mem_structuralRules {rule : StructuralRule} (h : rule ∈ structuralRules) :
    (∃ name pattern, rule = credentialRule name pattern) ∨ ∃ name pattern, rule = executionRule name pattern := by
  simp only [structuralRules, List.mem_cons, List.not_mem_nil, or_false] at h
  rcases h with rfl | rfl | rfl | rfl | rfl | rfl | rfl | rfl
  all_goals first | exact .inl ⟨_, _, rfl⟩ | exact .inr ⟨_, _, rfl⟩

theorem singleLined_of_mem_structuralRules {rule : StructuralRule} (h : rule ∈ structuralRules) :
    '\n' ∉ rule.category.toList ∧ '\n' ∉ rule.message.toList := by
  have hcredential : ∀ name pattern, '\n' ∉ (credentialRule name pattern).category.toList ∧
      '\n' ∉ (credentialRule name pattern).message.toList := by
    simp [credentialRule, credentialCategory]
  have hexecution : ∀ name pattern, '\n' ∉ (executionRule name pattern).category.toList ∧
      '\n' ∉ (executionRule name pattern).message.toList := by
    simp [executionRule, executionCategory]
  obtain ⟨name, pattern, rfl⟩ | ⟨name, pattern, rfl⟩ := eq_rule_of_mem_structuralRules h
  · exact hcredential name pattern
  · exact hexecution name pattern

theorem lineFeeds_keywordMessage (keyword : String) :
    lineFeeds s!"Potentially suspicious keyword \"{keyword}\" found" = lineFeeds keyword := by
  have hfront : lineFeeds "Potentially suspicious keyword \"" = 0 := lineFeeds_eq_zero_iff.mpr (by simp)
  have hback : lineFeeds "\" found" = 0 := lineFeeds_eq_zero_iff.mpr (by simp)
  have htext : ∀ s : String, toString s = s := fun _ => rfl
  simp only [htext, lineFeeds_append, hfront, hback]
  omega

namespace Detector

variable {d : Detector} {top : Folder} {stamp : Stamp} {path : String} {f : Finding}

theorem filePath_of_mem_findingsIn (hf : f ∈ d.findingsIn top stamp path) : f.filePath = path :=
  filePath_of_mem_scanFile ((scanFile_eq_findingsIn d top stamp path).symm ▸ hf)

/-- **What a finding in a file takes its line feeds from**: its path and its keyword. -/
theorem singleLined_iff
    (hd : ∃ keywords overrides maxFileBytes, d = .ofCatalog (.build keywords overrides) maxFileBytes)
    (hf : f ∈ d.findingsIn top stamp path) :
    f.SingleLined ↔ '\n' ∉ f.filePath.toList ∧ ∀ k, f.matchedKeyword = some k → '\n' ∉ k.toList := by
  obtain ⟨content, -, hinspect⟩ := exists_read_of_mem hf
  rw [hinspect] at hf
  obtain ⟨keywords, overrides, maxFileBytes, rfl⟩ := hd
  obtain ⟨rule, -, -, rfl⟩ | ⟨rule, hm, -, rfl⟩ := mem_inspect_iff.mp hf
  · constructor
    · exact fun h => ⟨h.filePath, h.keyword⟩
    · rintro ⟨hpath, hkeyword⟩
      have hcategory : '\n' ∉ keywordCategory.toList := by simp [keywordCategory]
      have hmessage := lineFeeds_eq_zero_iff.mp
        ((lineFeeds_keywordMessage rule.keyword).trans (lineFeeds_eq_zero_iff.mpr (hkeyword _ rfl)))
      exact ⟨hcategory, hpath, hmessage, hkeyword⟩
  · rw [catalog_ofCatalog_build] at hm
    obtain ⟨hcategory, hmessage⟩ := singleLined_of_mem_structuralRules hm
    exact ⟨fun h => ⟨h.filePath, h.keyword⟩, fun h => ⟨hcategory, h.1, hmessage, h.2⟩⟩

/-- The keyword of a finding in a file is one of the catalog. -/
theorem exists_rule_of_matchedKeyword (hf : f ∈ d.findingsIn top stamp path) {k : String}
    (hk : f.matchedKeyword = some k) : ∃ rule ∈ d.catalog.keywordRules, rule.keyword = k := by
  obtain ⟨content, -, hinspect⟩ := exists_read_of_mem hf
  rw [hinspect] at hf
  obtain ⟨rule, hm, -, rfl⟩ | ⟨rule, -, -, rfl⟩ := mem_inspect_iff.mp hf
  · exact ⟨rule, hm, Option.some.inj hk⟩
  · cases hk

end Detector

/-! ### The records of a scan -/

namespace Monitor

/-- **Nothing that the next scan is given holds a line feed**: neither the root, nor a name in the tree below it, nor
a keyword, nor what an anomaly tells. -/
structure GivenSingleLined (m : Monitor) (c : Circumstances) : Prop where
  root : '\n' ∉ m.root.render.toList
  names : ∀ trail entries, c.files.resolve m.root.render = .ok (.folder trail entries) →
    ∀ name, Folder.HoldsName name entries → '\n' ∉ name.toList
  keywords : ∀ rule ∈ m.detector.catalog.keywordRules, '\n' ∉ rule.keyword.toList
  anomalies : ∀ f ∈ m.probe.findings (m.nextStamp c), f.SingleLined

/-- **Which records of the next scan stand.** -/
structure RecordsStand (m : Monitor) (c : Circumstances) : Prop where
  /-- A record stands if no value holds a line feed. -/
  stand : ∀ f ∈ m.seen c, f.SingleLined → f.Stands
  /-- Any other record has lines more, and does not tell the finding. -/
  misread : ∀ f ∈ m.seen c, ¬f.SingleLined →
    f.recordLength < (linesOf f.recordText).length ∧ Finding.readRecord? f.recordText ≠ some f.told
  /-- In files, only a path and a keyword bring line feeds in. -/
  inFiles : ∀ f ∈ m.fileFindings c,
    (f.SingleLined ↔ '\n' ∉ f.filePath.toList ∧ ∀ k, f.matchedKeyword = some k → '\n' ∉ k.toList)
  /-- If nothing that is given holds a line feed, then all records stand. -/
  all : m.GivenSingleLined c → ∀ f ∈ m.seen c, f.Stands

variable {m : Monitor} {c : Circumstances} {f : Finding}

theorem detectedAt_of_mem_seen (h : f ∈ m.seen c) : f.detectedAt = c.now := by
  rcases List.mem_append.mp h with h | h
  · obtain ⟨path, -, h⟩ := List.mem_flatMap.mp h
    obtain ⟨content, -, hinspect⟩ := Detector.exists_read_of_mem h
    rw [hinspect] at h
    obtain ⟨rule, -, -, rfl⟩ | ⟨rule, -, -, rfl⟩ := Detector.mem_inspect_iff.mp h <;> rfl
  · unfold Probe.findings at h
    split at h
    · obtain ⟨a, -, rfl⟩ := List.mem_map.mp h
      rfl
    · cases h

/-- No path of a walk holds a line feed if the root and the names below it hold none. -/
theorem GivenSingleLined.not_mem_path (h : m.GivenSingleLined c) {path : Path}
    (hpath : path ∈ (m.walker.traverse c.files m.root).files) : '\n' ∉ path.render.toList := by
  unfold Walker.traverse at hpath
  cases hroot : c.files.resolve m.root.render with
  | error fault =>
    rw [hroot] at hpath
    cases hpath
  | ok target =>
    cases target with
    | file bytes =>
      rw [hroot] at hpath
      cases hpath
    | folder trail entries =>
      rw [hroot] at hpath
      obtain ⟨dirs, inner, name, node, hd, -, hm, -, -, rfl⟩ := Walker.exists_of_mem_listing hpath
      exact Path.not_mem_render_descend (by decide) h.root fun n hn =>
        h.names trail entries hroot n (hd.holdsName hm n hn)

theorem GivenSingleLined.singleLined (h : m.GivenSingleLined c) (configured : m.IsConfigured)
    (hf : f ∈ m.seen c) : f.SingleLined := by
  rcases List.mem_append.mp hf with hf | hf
  · obtain ⟨path, hpath, hf⟩ := List.mem_flatMap.mp hf
    rw [Detector.singleLined_iff configured.detector hf, Detector.filePath_of_mem_findingsIn hf]
    refine ⟨h.not_mem_path hpath, fun k hk => ?_⟩
    obtain ⟨rule, hm, rfl⟩ := Detector.exists_rule_of_matchedKeyword hf hk
    exact h.keywords rule hm
  · exact h.anomalies f hf

/-- **Which records of the next scan of a configured monitor stand.** -/
theorem IsConfigured.recordsStand (configured : m.IsConfigured) (hyear : c.now.HasYear) : m.RecordsStand c where
  stand := fun f hf h => h.stands (detectedAt_of_mem_seen hf ▸ hyear)
  misread := fun f _ h => ⟨Finding.recordLength_lt h, mt Finding.singleLined_of_read h⟩
  inFiles := fun f hf => by
    obtain ⟨path, -, hf⟩ := List.mem_flatMap.mp hf
    exact Detector.singleLined_iff configured.detector hf
  all := fun given f hf => (given.singleLined configured hf).stands (detectedAt_of_mem_seen hf ▸ hyear)

end Monitor

namespace Run

variable {start m : Monitor} {past : List Moment}

/-- **Which threat records of a scan stand**, after every run and in every tree. -/
theorem records_stand (made : start.Made) (run : Run start past m) {c : Circumstances} (hyear : c.now.HasYear) :
    m.RecordsStand c :=
  (run.isConfigured made).recordsStand hyear

/-- A tree with one file, in which a keyword is found. -/
def keywordTree (name : String) : Folder :=
  [(name, .file (Utf8.encode "malware".toList))]

/-- Circumstances that show the tree, with nothing else going on. -/
def showing (name : String) : Circumstances :=
  { Monitor.quiet with files := keywordTree name }

theorem readFile_keywordTree {name : String} (hproper : Folder.isProperName name = true) :
    (keywordTree name).readFile name = .ok (Utf8.encode "malware".toList) :=
  Folder.readFile_of_mem (by simp [keywordTree, Folder.isWellFormed, hproper]) List.mem_cons_self

/-- The finding in the file. -/
def keywordSighting (name : String) : Finding :=
  Detector.keywordFinding ⟨"", ⟨0⟩, 1⟩ name ⟨"malware", .critical⟩

/-- What is configured for the plain monitor, as far as the file is concerned. -/
theorem plain_looksFor :
    Monitor.plain.root = ⟨.here, []⟩ ∧
      (".py" ∈ stringsOf Config.default.extensions ∧ normalExtension? ".py" = some ".py") ∧
      ("malware" ∈ stringsOf Config.default.keywords ∧ normalKeyword "malware" = "malware" ∧
        Severity.ofKeyword "malware" = .critical) ∧
      Detector.textOf (Utf8.encode "malware".toList) = "malware".toList ∧
      (Utf8.encode "malware".toList).length = 7 ∧ 0 ∉ (Utf8.encode "malware".toList).take sniffedBytes := by
  decide +kernel

theorem keywordSighting_mem_seen {name : String} (hproper : Folder.isProperName name = true)
    (hextension : String.ofList (lower (extensionOf name.toList)) = ".py") :
    keywordSighting name ∈ Monitor.plain.seen (showing name) := by
  obtain ⟨hhere, ⟨hmem, hnormal⟩, ⟨hconfigured, hkeyword, hseverity⟩, htext, hlength, hnul⟩ := plain_looksFor
  have hlisted : Monitor.plain.root.child name ∈
      (Monitor.plain.walker.traverse (keywordTree name) Monitor.plain.root).files := by
    have hroot : (keywordTree name).resolve Monitor.plain.root.render = .ok (.folder [] (keywordTree name)) :=
      Monitor.resolve_defaultRoot _
    have hselects : Monitor.plain.walker.selectsName name = true := by
      rw [Monitor.plain, Monitor.unconfigured, Monitor.initial, Walker.selectsName_ofLists, hextension]
      exact ⟨".py", hmem, hnormal⟩
    rw [keywordTree, Walker.traverse_singleFile _ hroot hselects]
    exact List.mem_singleton_self _
  refine List.mem_append_left _ (List.mem_flatMap.mpr ⟨_, hlisted, ?_⟩)
  have hrule : (⟨"malware", .critical⟩ : KeywordRule) ∈ Monitor.plain.detector.catalog.keywordRules := by
    show _ ∈ (Detector.ofCatalog (.build _ _) _).catalog.keywordRules
    rw [Detector.catalog_ofCatalog_build, Catalog.mem_keywordRules_build, Catalog.mem_normalKeywords]
    exact ⟨⟨by simp, "malware", hconfigured, hkeyword⟩, hseverity.symm⟩
  have hrender : (Monitor.plain.root.child name).render = name := by
    rw [hhere]
    simp [Path.child, Path.render, Anchor.text]
  have hsize : ((Utf8.encode "malware".toList).length : ℤ) ≤ Monitor.plain.detector.maxFileBytes := by
    rw [hlength]
    decide
  rw [hrender, ← Detector.scanFile_eq_findingsIn]
  show keywordSighting name ∈ (Monitor.plain.detector.scanFile (keywordTree name) ⟨"", ⟨0⟩, 1⟩ name).2
  rw [Detector.scanFile_of_readFile (readFile_keywordTree hproper) hsize hnul, htext]
  exact Detector.keywordFinding_mem_inspect hrule List.infix_rfl

/-- The record about a file with an ordinary name stands. -/
theorem records_stand_plainName :
    Monitor.plain.Made ∧ (⟨0⟩ : Instant).HasYear ∧ keywordSighting "a.py" ∈ Monitor.plain.seen (showing "a.py") ∧
      (keywordSighting "a.py").Stands := by
  obtain ⟨hproper, hextension, hfeeds⟩ : Folder.isProperName "a.py" = true ∧
      String.ofList (lower (extensionOf "a.py".toList)) = ".py" ∧ (keywordSighting "a.py").feeds = 0 := by
    decide +kernel
  have hyear : (showing "a.py").now.HasYear := by decide
  have hseen := keywordSighting_mem_seen hproper hextension
  exact ⟨Monitor.made_plain, hyear, hseen,
    (records_stand Monitor.made_plain (@Run.here Monitor.plain) hyear).stand _ hseen
      (Finding.singleLined_iff.mpr hfeeds)⟩

/-- A name with line feeds that looks like a line about the severity. -/
def forgedName : String :=
  "a\n   Severity: LOW\n.py"

/-- A name with line feeds forges a line about the severity. -/
theorem not_stands_forgedName :
    ∃ f ∈ Monitor.plain.seen (showing forgedName), f.severity = .critical ∧ f.recordLength = 7 ∧
      (linesOf f.recordText).length = 9 ∧ "   Severity: LOW" ∈ linesOf f.recordText ∧
      Finding.readRecord? f.recordText ≠ some f.told := by
  obtain ⟨hproper, hextension, hfeeds, hlength, hline⟩ : Folder.isProperName forgedName = true ∧
      String.ofList (lower (extensionOf forgedName.toList)) = ".py" ∧ (keywordSighting forgedName).feeds = 2 ∧
      (keywordSighting forgedName).recordLength = 7 ∧
      "   Severity: LOW" ∈ linesOf ("   File: " ++ forgedName) := by
    decide +kernel
  refine ⟨_, keywordSighting_mem_seen hproper hextension, rfl, hlength, ?_, ?_, ?_⟩
  · rw [Finding.length_linesOf_recordText, hlength, hfeeds]
  · have hfile : "   File: " ++ forgedName ∈ (keywordSighting forgedName).record := by
      rw [Finding.record_eq]
      simp [keywordSighting, Detector.keywordFinding]
    rw [Finding.recordText, linesOf_intercalate (Finding.record_ne_nil _), List.mem_flatMap]
    exact ⟨_, hfile, hline⟩
  · intro htold
    have hnone := Finding.singleLined_iff.mp (Finding.singleLined_of_read htold)
    rw [hfeeds] at hnone
    cases hnone

end Run

end SourceWatch

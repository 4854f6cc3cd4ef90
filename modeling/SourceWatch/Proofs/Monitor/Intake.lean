import SourceWatch.Monitor.Lifecycle
import SourceWatch.Proofs.Detector.Findings

/-!
# What a scan sees

A scan sees the findings in the files and the anomalies of the probe.  Scans of one tree see the same keys.

Main definitions:

* `Monitor.rawFindings`: the findings that a scan sees, repeats included;
* `Monitor.SameSetup`: two monitors watch the same root in the same way.

Main statements:

* `Monitor.rawFindings_of_absent`: without a probe, there are only the findings in the files;
* `Monitor.keys_rawFindings`: scans of one tree in one way see the same keys.
-/

namespace SourceWatch

/-! ### Findings among sightings -/

namespace Sighting

theorem findings_append (seen later : List Sighting) :
    findings (seen ++ later) = findings seen ++ findings later :=
  List.filterMap_append

theorem findings_noted (records : List LogRecord) : findings (records.map .noted) = [] := by
  induction records with
  | nil => rfl
  | cons record records ih => exact ih

theorem findings_found (fs : List Finding) : findings (fs.map .found) = fs := by
  induction fs with
  | nil => rfl
  | cons f fs ih => exact congrArg (f :: ·) ih

theorem findings_flatMap {α : Type} (xs : List α) (part : α → List Sighting) :
    findings (xs.flatMap part) = xs.flatMap fun x => findings (part x) := by
  induction xs with
  | nil => rfl
  | cons x xs ih => rw [List.flatMap_cons, List.flatMap_cons, findings_append, ih]

end Sighting

namespace Monitor

/-! ### What a scan sees -/

/-- What the circumstances contribute to the findings of the next scan. -/
def nextStamp (m : Monitor) (c : Circumstances) : Stamp :=
  ⟨c.newId, c.now, (m.cycles + 1 : ℕ)⟩

/-- The findings that the next scan sees, repeats included. -/
def rawFindings (m : Monitor) (c : Circumstances) : List Finding :=
  Sighting.findings (m.sightings c (m.nextStamp c)).1

theorem findings_fileSightings (m : Monitor) (files : Folder) (stamp : Stamp) (path : Path) :
    Sighting.findings (m.fileSightings files stamp path) =
      (m.detector.scanFile files stamp path.render).2 := by
  rw [fileSightings, Sighting.findings_append, Sighting.findings_noted, Sighting.findings_found,
    List.nil_append]

/-- Without a probe a scan sees what it finds in the files, in the order of the walk. -/
theorem rawFindings_of_absent {m : Monitor} (hp : m.probe = .absent) (c : Circumstances) :
    m.rawFindings c = (m.walker.traverse c.files m.root).files.flatMap fun path =>
      (m.detector.scanFile c.files (m.nextStamp c) path.render).2 := by
  rw [rawFindings, sightings, Sighting.findings_append, Sighting.findings_append,
    Sighting.findings_noted, Sighting.findings_flatMap, probeSightings, hp, List.nil_append,
    show Sighting.findings [] = [] from rfl, List.append_nil]
  simp only [findings_fileSightings]

/-- Two monitors watch the same root in the same way. -/
structure SameSetup (m n : Monitor) : Prop where
  root : m.root = n.root
  walker : m.walker = n.walker
  detector : m.detector = n.detector
  probe : m.probe = n.probe

theorem SameSetup.refl (m : Monitor) : SameSetup m m :=
  ⟨rfl, rfl, rfl, rfl⟩

theorem SameSetup.trans {m n o : Monitor} (h : SameSetup m n) (h' : SameSetup n o) :
    SameSetup m o :=
  ⟨h.root.trans h'.root, h.walker.trans h'.walker, h.detector.trans h'.detector,
    h.probe.trans h'.probe⟩

/-- Scans of one tree in one way see the same keys. -/
theorem keys_rawFindings {m n : Monitor} (h : SameSetup m n) (hp : m.probe = .absent)
    {c c' : Circumstances} (hc : c.files = c'.files) :
    (m.rawFindings c).map Finding.key = (n.rawFindings c').map Finding.key := by
  rw [rawFindings_of_absent hp, rawFindings_of_absent (h.probe ▸ hp), List.map_flatMap,
    List.map_flatMap, h.walker, h.root, h.detector, hc]
  congr 1
  funext path
  exact Detector.keys_scanFile _ _ _ _ _

end Monitor

end SourceWatch

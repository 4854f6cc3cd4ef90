import SourceWatch.Monitor.Create
import SourceWatch.Proofs.Association
import SourceWatch.Proofs.Schema.Check

/-!
# Configurations that are accepted

The numbers of a configuration that is accepted keep the bounds of their fields, whatever the numbers are written as,
and its severities are severities.  So nothing that is made from them later finds a number too small or a severity
unknown.

Main definitions:

* `Config.InBounds`: the bounds of the numbers;
* `Config.severities`: the severities of a configuration by keyword.

Main statements:

* `Config.inBounds_of_ofOverridden`: the numbers keep their bounds;
* `Config.exists_ofOverridden_of_load`: what is loaded is what some fields describe;
* `Config.exists_ofSettings`: the severities are read.
-/

namespace SourceWatch

/-! ### Severities as they are written -/

namespace Catalog

/-- Severities are read from their labels. -/
theorem readOverrides_label (overrides : List (String × Severity)) :
    readOverrides (overrides.map fun entry => (entry.1, entry.2.label)) = .ok overrides := by
  induction overrides with
  | nil => rfl
  | cons entry rest ih =>
    rw [List.map_cons, readOverrides, Severity.ofLabel?_label, ih]
    rfl

/-- The catalog of overrides that are written with the labels of severities. -/
theorem ofSettings_label (keywords : List String) (overrides : List (String × Severity)) :
    ofSettings (some keywords) (overrides.map fun entry => (entry.1, entry.2.label)) =
      .ok (.build keywords (Association.ofPairs overrides)) := by
  rw [ofSettings, Association.ofPairs_map, readOverrides_label]
  rfl

end Catalog

namespace Config

open Text

variable {config : Config}

/-- The severities of a configuration by keyword; a keyword with a lone surrogate occurs in no file. -/
def severities (config : Config) : List (String × Severity) :=
  config.keywordSeverity.filterMap fun entry => entry.1.toString?.map (·, entry.2)

/-- **The severities of a configuration are read,** and make up its catalog if no keyword comes twice. -/
theorem exists_ofSettings (config : Config) :
    ∃ catalog, Catalog.ofSettings (some (stringsOf config.keywords))
        (config.severities.map fun entry => (entry.1, entry.2.label)) = .ok catalog ∧
      ((config.severities.map (·.1)).Nodup → catalog = config.catalog) := by
  refine ⟨_, Catalog.ofSettings_label _ _, fun distinct => ?_⟩
  rw [Association.ofPairs_of_nodup distinct]
  rfl

/-! ### Bounds -/

/-- The numbers of a configuration keep their bounds. -/
structure InBounds (config : Config) : Prop where
  interval : 1 ≤ config.interval
  window : 1 ≤ config.window
  historyLimit : 2 ≤ config.historyLimit
  maxFileBytes : 1 ≤ config.maxFileBytes

/-- The settings that fields describe keep the bounds. -/
theorem inBounds_of_ofFields {fields : List (CodeText × Json)} (h : ofFields fields = .valid config) :
    config.InBounds := by
  -- the fields from the last one to the first
  obtain ⟨_, smsEnabled, h1, -, rfl⟩ := Checked.ap_eq_valid h
  obtain ⟨_, voiceEnabled, h2, -, rfl⟩ := Checked.ap_eq_valid h1
  obtain ⟨_, maxFileBytes, h3, hbytes, rfl⟩ := Checked.ap_eq_valid h2
  obtain ⟨_, historyLimit, h4, hlimit, rfl⟩ := Checked.ap_eq_valid h3
  obtain ⟨_, window, h5, hwindow, rfl⟩ := Checked.ap_eq_valid h4
  obtain ⟨_, keywordSeverity, h6, -, rfl⟩ := Checked.ap_eq_valid h5
  obtain ⟨_, keywords, h7, -, rfl⟩ := Checked.ap_eq_valid h6
  obtain ⟨_, extensions, h8, -, rfl⟩ := Checked.ap_eq_valid h7
  obtain ⟨_, ignored, h9, -, rfl⟩ := Checked.ap_eq_valid h8
  obtain ⟨_, interval, h10, hinterval, rfl⟩ := Checked.ap_eq_valid h9
  obtain ⟨_, targetRoot, h11, -, rfl⟩ := Checked.ap_eq_valid h10
  cases h11
  exact
    { interval := Check.le_of_fieldOr (by decide) hinterval
      window := Check.le_of_fieldOr (by decide) hwindow
      historyLimit := Check.le_of_fieldOr (by decide) hlimit
      maxFileBytes := Check.le_of_fieldOr (by decide) hbytes }

/-- **A configuration that is accepted keeps the bounds.** -/
theorem inBounds_of_ofOverridden {fields overrides : List (CodeText × Json)}
    (h : ofOverridden fields overrides = .ok config) : config.InBounds := by
  unfold ofOverridden at h
  cases hchecked : ofFields (override fields overrides) with
  | valid accepted =>
    rw [hchecked] at h
    cases h
    exact inBounds_of_ofFields hchecked
  | faulty issues =>
    rw [hchecked] at h
    cases h

example : ∃ config, ofOverridden [(CodeText.ofString "interval_seconds", .string " +5.0 "),
    (CodeText.ofString "max_file_bytes", .bool true)] [] = .ok config ∧ config.interval = 5 :=
  ⟨_, rfl, rfl⟩

/-- What is loaded is what the fields of the file, or no fields, describe with the overrides. -/
theorem exists_ofOverridden_of_load {top : Folder} {env : Environment} {path : Option String}
    {overrides : List (CodeText × Json)} (h : (load top env path overrides).2 = .ok config) :
    ∃ fields, ofOverridden fields overrides = .ok config := by
  unfold load at h
  split at h
  · exact ⟨[], h⟩
  · dsimp only at h
    split at h
    · cases h
    · exact ⟨_, h⟩

theorem inBounds_of_load {top : Folder} {env : Environment} {path : Option String}
    {overrides : List (CodeText × Json)} (h : (load top env path overrides).2 = .ok config) :
    config.InBounds := by
  obtain ⟨fields, hfields⟩ := exists_ofOverridden_of_load h
  exact inBounds_of_ofOverridden hfields

end Config

end SourceWatch

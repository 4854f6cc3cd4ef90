import SourceWatch.Config.Load
import SourceWatch.Proofs.Files.Faults
import SourceWatch.Proofs.Json.Faults
import SourceWatch.Proofs.Text.Strict

/-!
# How loading a configuration fails

Most causes are reported as an invalid configuration: the file is missing or cannot be read, its text is no document
or no object, or a field does not pass its check.  Four are not foreseen and come from the layers below: a NUL in the
path, bytes that are no text, an integer with too many digits, and values that nest too deep.  A file without a run of
that many digits and without that many opening brackets has none of the last two.

Main definitions:

* `Config.Unforeseen`: the causes that are not foreseen;
* `Config.IsPlain`: files that give no such cause.

Main statements:

* `Config.exists_unreported_iff`, `Config.reported_iff`: loading fails unreported for these causes and no others;
* `Config.not_unforeseen_of_isPlain`: plain files do not make it fail so.
-/

namespace SourceWatch

open Text

namespace Config

/-- The causes that loading the file at a path does not foresee. -/
inductive Unforeseen (top : Folder) (path : String) : Prop
  | nulInPath (nul : '\x00' ∈ path.toList)
  | undecodable {bytes : List UInt8} (read : top.readFile path = .ok bytes) (noText : ∀ cs, bytes ≠ Utf8.encode cs)
  | tooManyDigits {cs : List Char} {count : ℕ} (read : top.readFile path = .ok (Utf8.encode cs))
      (refused : Json.read (unifyNewlines cs) = .error (.tooManyDigits count))
  | tooDeep {cs : List Char} {container : Json.Container} (read : top.readFile path = .ok (Utf8.encode cs))
      (refused : Json.read (unifyNewlines cs) = .error (.tooDeep container))

/-- The file at a path, if there is one, is a text without long runs of digits and with few opening brackets. -/
structure IsPlain (top : Folder) (path : String) : Prop where
  notNul : '\x00' ∉ path.toList
  text : ∀ bytes, top.readFile path = .ok bytes → ∃ cs, bytes = Utf8.encode cs ∧
    ¬ Json.HasLongNumber (unifyNewlines cs) ∧ Json.openings (unifyNewlines cs) ≤ Json.nestingLimit

variable {top : Folder} {env : Environment} {path : Option String} {overrides : List (CodeText × Json)} {p : String}

/-! ### Reading the file -/

/-- Reading a text fails unreported for its digits and its nesting. -/
theorem parseFields_unreported_iff (cs : List Char) :
    (∃ fault, parseFields p cs = .error fault ∧ fault.isReported = false) ↔
      (∃ count, Json.read cs = .error (.tooManyDigits count)) ∨
        ∃ container, Json.read cs = .error (.tooDeep container) := by
  unfold parseFields
  cases Json.read cs with
  | ok value => cases value <;> simp [ConfigFault.isReported]
  | error fault => cases fault <;> simp [ConfigFault.isReported]

theorem readFile_embeddedNul_iff : top.readFile p = .error .embeddedNul ↔ '\x00' ∈ p.toList := by
  constructor
  · intro h
    rcases Folder.readFile_error h with hfolder | hresolve
    · cases hfolder
    · rcases Folder.resolve_error hresolve with ⟨hnul, -⟩ | ⟨-, hway⟩
      · exact hnul
      · cases hway
  · intro hnul
    unfold Folder.readFile Folder.resolve
    rw [if_pos (by simpa using hnul)]

/-- The fields that a file with a text gives. -/
theorem readFields_of_text {cs : List Char} (h : top.readFile p = .ok (Utf8.encode cs)) :
    readFields top p = parseFields p (unifyNewlines cs) := by
  rw [readFields, h]
  simp only [Utf8.decode_eq_ok_iff.mpr rfl]

/-- **Reading the file fails unreported for the causes that are not foreseen.** -/
theorem readFields_unreported_iff :
    (∃ fault, readFields top p = .error fault ∧ fault.isReported = false) ↔ Unforeseen top p := by
  constructor
  · rintro ⟨fault, hfault, hunreported⟩
    unfold readFields at hfault
    split at hfault
    · cases hfault
      cases hunreported
    · next hread => exact .nulInPath (readFile_embeddedNul_iff.mp hread)
    · cases hfault
      cases hunreported
    · next bytes hread =>
      split at hfault
      · next hdecode => exact .undecodable hread (Utf8.decode_eq_error_iff.mp ⟨_, hdecode⟩)
      · next cs hdecode =>
        rw [Utf8.decode_eq_ok_iff] at hdecode
        rw [hdecode] at hread
        rcases (parseFields_unreported_iff _).mp ⟨fault, hfault, hunreported⟩ with ⟨_, hdigits⟩ | ⟨_, hdeep⟩
        · exact .tooManyDigits hread hdigits
        · exact .tooDeep hread hdeep
  · rintro (hnul | ⟨hread, hbytes⟩ | ⟨hread, hdigits⟩ | ⟨hread, hdeep⟩)
    · refine ⟨.nulInPath, ?_, rfl⟩
      rw [readFields, readFile_embeddedNul_iff.mpr hnul]
    · obtain ⟨malformed, hdecode⟩ := Utf8.decode_eq_error_iff.mpr hbytes
      refine ⟨.undecodable malformed, ?_, rfl⟩
      rw [readFields, hread]
      simp only [hdecode]
    · rw [readFields_of_text hread]
      exact (parseFields_unreported_iff _).mpr (.inl ⟨_, hdigits⟩)
    · rw [readFields_of_text hread]
      exact (parseFields_unreported_iff _).mpr (.inr ⟨_, hdeep⟩)

/-! ### Loading -/

/-- Fields that are no configuration are reported. -/
theorem isReported_of_ofOverridden {fields : List (CodeText × Json)} {fault : ConfigFault}
    (h : ofOverridden fields overrides = .error fault) : fault.isReported = true := by
  unfold ofOverridden at h
  cases hfields : (ofFields (override fields overrides)).toExcept with
  | ok config =>
    rw [hfields] at h
    cases h
  | error issues =>
    rw [hfields] at h
    cases h
    rfl

/-- **Loading fails unreported for the causes that are not foreseen, and no others.** -/
theorem exists_unreported_iff :
    (∃ fault, (load top env path overrides).2 = .error fault ∧ fault.isReported = false) ↔
      ∃ p, chosenPath env path = some p ∧ Unforeseen top p := by
  unfold load
  cases hpath : chosenPath env path with
  | none =>
    refine iff_of_false ?_ nofun
    rintro ⟨fault, hfault, hunreported⟩
    rw [isReported_of_ofOverridden hfault] at hunreported
    cases hunreported
  | some p =>
    simp only [Option.some.injEq, exists_eq_left', ← readFields_unreported_iff]
    cases readFields top p with
    | error fault => simp only [Except.error.injEq]
    | ok fields =>
      refine iff_of_false ?_ nofun
      rintro ⟨fault, hfault, hunreported⟩
      rw [isReported_of_ofOverridden hfault] at hunreported
      cases hunreported

/-- **Whatever goes wrong is reported** unless a cause is not foreseen. -/
theorem reported_iff :
    (∀ fault, (load top env path overrides).2 = .error fault → fault.isReported = true) ↔
      ∀ p, chosenPath env path = some p → ¬ Unforeseen top p := by
  constructor
  · intro h p hp hunforeseen
    obtain ⟨fault, hfault, hunreported⟩ := exists_unreported_iff.mpr ⟨p, hp, hunforeseen⟩
    rw [h fault hfault] at hunreported
    cases hunreported
  · intro h fault hfault
    by_contra hunreported
    obtain ⟨p, hp, hunforeseen⟩ := exists_unreported_iff.mp ⟨fault, hfault, by simpa using hunreported⟩
    exact h p hp hunforeseen

/-- **Plain files do not make loading fail unreported.** -/
theorem not_unforeseen_of_isPlain (h : IsPlain top p) : ¬ Unforeseen top p := by
  rintro (hnul | ⟨hread, hbytes⟩ | ⟨hread, hdigits⟩ | ⟨hread, hdeep⟩)
  · exact h.notNul hnul
  · obtain ⟨cs, hcs, -⟩ := h.text _ hread
    exact hbytes cs hcs
  · obtain ⟨cs, hcs, hshort, -⟩ := h.text _ hread
    rw [Utf8.encode_injective hcs] at hdigits
    exact hshort (Json.hasLongNumber_of_read hdigits)
  · obtain ⟨cs, hcs, -, hfew⟩ := h.text _ hread
    rw [Utf8.encode_injective hcs] at hdeep
    exact absurd (Json.lt_openings_of_read hdeep) (Nat.not_lt.mpr hfew)

end Config

end SourceWatch

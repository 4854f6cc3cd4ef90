import SourceWatch.Proofs.Detector.Surroundings
import SourceWatch.Proofs.Text.Capital

/-!
# Reading a text back

Of a file with an encoded text in its midst, the text is read as it was written, whatever bytes stand around it: those
before take no byte of it along, and those behind are read as if they stood alone.

Main statement: `Detector.read_resynchronizes`, what a file is read as.
-/

namespace SourceWatch.Detector

open Text

variable {d : Detector} {top : Folder} {path : String} {bytes : List UInt8}

/-- **The reading of a file resynchronizes.**  Let a file be neither too large nor binary.  If an encoded text that
is not empty stands in its midst, it is read as what is left of the bytes before, the text itself, and what is left of
the bytes behind, all in lower case and with unified line ends.  A file that is an encoded text is read as this text
up to line ends and case, which is the very text if it has no carriage return and no capital. -/
theorem read_resynchronizes (hfile : top.readFile path = .ok bytes) (hsize : bytes.length ≤ d.maxFileBytes)
    (hnul : 0 ∉ bytes.take sniffedBytes) :
    (∀ x s y, s ≠ [] → bytes = x ++ Utf8.encode s ++ y →
      Utf8.Salvages x (Utf8.decodeLenient x) ∧ Utf8.Salvages y (Utf8.decodeLenient y) ∧
      d.read top path =
        .ok (.text (lower (unifyNewlines (Utf8.decodeLenient x ++ s ++ Utf8.decodeLenient y))))) ∧
    ∀ s, bytes = Utf8.encode s →
      d.read top path = .ok (.text (lower (unifyNewlines s))) ∧
      ('\r' ∉ s → (∀ c ∈ s, isCapital c.toNat = false) → d.read top path = .ok (.text s)) := by
  have hread := read_of_readFile hfile hsize hnul
  constructor
  · rintro x s y hs rfl
    refine ⟨Utf8.salvages_iff.mpr rfl, Utf8.salvages_iff.mpr rfl, ?_⟩
    rw [hread, textOf_amid x y hs]
  · rintro s rfl
    have hencoded := hread
    rw [textOf_encode] at hencoded
    refine ⟨hencoded, fun hcr hcapitals => ?_⟩
    rw [hencoded, unifyNewlines_eq_self hcr, lower_eq_self hcapitals]

/-- A file in which a text stands between an overlong form, a truncated sequence, a surrogate and a number above the
last code point, and a file that is an encoded text. -/
def malformedTree : Folder :=
  [("a.py", .file ([0xC0, 0xAF, 0xE2, 0x82] ++ Utf8.encode "É\r\n".toList ++
      [0xED, 0xA0, 0x80, 0xF4, 0x90, 0x80, 0x80, 0x41])),
    ("b.py", .file (Utf8.encode "λ = 1\n".toList))]

theorem read_resynchronizes_malformedTree :
    (ofCatalog .default 16).read malformedTree "a.py" = .ok (.text "é\na".toList) ∧
      (ofCatalog .default 16).read malformedTree "b.py" = .ok (.text "λ = 1\n".toList) := by
  have hproper : Folder.isProperName "a.py" = true ∧ Folder.isProperName "b.py" = true := by decide +kernel
  have hw : malformedTree.isWellFormed = true := by
    simp [malformedTree, Folder.isWellFormed, hproper]
  obtain ⟨hamid, -⟩ := @read_resynchronizes (ofCatalog .default 16) _ _ _
    (Folder.readFile_of_mem hw List.mem_cons_self) (by decide +kernel) (by decide +kernel)
  obtain ⟨-, halone⟩ := @read_resynchronizes (ofCatalog .default 16) _ _ _
    (Folder.readFile_of_mem hw (List.mem_cons_of_mem _ List.mem_cons_self)) (by decide +kernel) (by decide +kernel)
  have htext : lower (unifyNewlines (Utf8.decodeLenient [0xC0, 0xAF, 0xE2, 0x82] ++ "É\r\n".toList ++
      Utf8.decodeLenient [0xED, 0xA0, 0x80, 0xF4, 0x90, 0x80, 0x80, 0x41])) = "é\na".toList := by
    decide +kernel
  have hcapitals : "λ = 1\n".toList.all (fun c => !isCapital c.toNat) = true := by decide +kernel
  constructor
  · rw [(hamid _ _ _ (by simp) rfl).2.2, htext]
  · exact (halone _ rfl).2 (by simp) (by simpa only [List.all_eq_true, Bool.not_eq_true'] using hcapitals)

end SourceWatch.Detector

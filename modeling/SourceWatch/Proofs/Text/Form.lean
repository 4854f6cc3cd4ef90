import SourceWatch.Text.Percent
import SourceWatch.Proofs.Text.Split
import SourceWatch.Proofs.Text.Strict

/-!
# Reading the fields of a form

A form is read by splitting it at its ampersands and each field at its equals sign.  In a name and in a value, a
plus sign stands for a space and a percent sign with two digits for a byte, and the bytes are the UTF-8 form of a
text.  What is written as a form is read as the same fields.

Main definitions:

* `formDecode?`: the text that a name or a value stands for;
* `formFields?`: the fields of a form.

Main statements:

* `formDecode?_formEncode`: a text is read as it was written;
* `formFields?_formBody`: so are the fields of a form.
-/

namespace SourceWatch.Text

/-- A plus sign stands for a space. -/
def plusToSpace (c : Char) : Char :=
  if c = '+' then ' ' else c

/-- The text that a name or a value of a form stands for. -/
def formDecode? (cs : List Char) : Option String :=
  (Utf8.decode (percentDecode (cs.map plusToSpace))).toOption.map String.ofList

/-- The name and the value of a field, on either side of its only equals sign. -/
def formField? (cs : List Char) : Option (String × String) :=
  match splitOn '=' cs with
  | [name, value] => (formDecode? name).bind fun name => (formDecode? value).map (name, ·)
  | _ => none

/-- The fields of a form. -/
def formFields? (body : String) : Option (List (String × String)) :=
  (splitOn '&' body.toList).mapM formField?

/-- What a character is written as in a form. -/
def formChar (c : Char) : List Char :=
  if c = ' ' then ['+'] else if isUnreserved c then [c] else percentChar c

theorem toList_formEncode (s : String) : (formEncode s).toList = s.toList.flatMap formChar :=
  String.toList_ofList

variable {c d : Char} {cs : List Char}

/-! ### The characters of a form -/

theorem isUnreserved_upperHexDigit {n : ℕ} (h : n < 16) : isUnreserved (upperHexDigit n) = true := by
  have all : ∀ k : Fin 16, isUnreserved (upperHexDigit k.val) = true := by decide
  exact all ⟨n, h⟩

theorem mem_percentChar (h : d ∈ percentChar c) : d = '%' ∨ isUnreserved d = true := by
  obtain ⟨b, -, hd⟩ := List.mem_flatMap.mp h
  have hb : b.toNat < 256 := UInt8.toNat_lt_size b
  simp only [percentByte, List.mem_cons, List.not_mem_nil, or_false] at hd
  rcases hd with rfl | rfl | rfl
  · exact .inl rfl
  · exact .inr (isUnreserved_upperHexDigit (by omega))
  · exact .inr (isUnreserved_upperHexDigit (by omega))

/-- Only plus signs, percent signs and characters that stand for themselves are written. -/
theorem mem_formEncode {s : String} (h : d ∈ (formEncode s).toList) :
    d = '+' ∨ d = '%' ∨ isUnreserved d = true := by
  rw [toList_formEncode] at h
  obtain ⟨c, -, hd⟩ := List.mem_flatMap.mp h
  unfold formChar at hd
  split at hd
  · exact .inl (List.mem_singleton.mp hd)
  · split at hd
    · next hc => exact .inr (.inr (List.mem_singleton.mp hd ▸ hc))
    · exact .inr (mem_percentChar hd)

/-- An ampersand or an equals sign is not written as itself. -/
theorem not_mem_formEncode (hc : c = '&' ∨ c = '=') (s : String) : c ∉ (formEncode s).toList := by
  intro h
  rcases mem_formEncode h with rfl | rfl | hd
  · rcases hc with hc | hc <;> cases hc
  · rcases hc with hc | hc <;> cases hc
  · rcases hc with rfl | rfl <;> cases hd

/-! ### Names and values -/

theorem percentDecode_cons (h : c ≠ '%') (cs : List Char) :
    percentDecode (c :: cs) = String.utf8EncodeChar c ++ percentDecode cs := by
  rw [percentDecode]
  intro a b rest hc
  exact absurd hc h

/-- A byte that was written is read. -/
theorem percentDecode_percentByte (b : UInt8) (cs : List Char) :
    percentDecode (percentByte b ++ cs) = b :: percentDecode cs := by
  have hb : b.toNat < 256 := UInt8.toNat_lt_size b
  have hvalue : UInt8.ofNat (16 * (b.toNat / 16) + b.toNat % 16) = b := by
    rw [Nat.div_add_mod, UInt8.ofNat_toNat]
  show percentDecode ('%' :: upperHexDigit (b.toNat / 16) :: upperHexDigit (b.toNat % 16) :: cs) = _
  rw [percentDecode, hexValue?_upperHexDigit (by omega), hexValue?_upperHexDigit (by omega)]
  simp only [hvalue]

theorem percentDecode_bytes (bytes : List UInt8) (cs : List Char) :
    percentDecode (bytes.flatMap percentByte ++ cs) = bytes ++ percentDecode cs := by
  induction bytes with
  | nil => rfl
  | cons b bytes ih => rw [List.flatMap_cons, List.append_assoc, percentDecode_percentByte, ih, List.cons_append]

/-- There is no plus sign among encoded bytes. -/
theorem map_plusToSpace_percentChar (c : Char) : (percentChar c).map plusToSpace = percentChar c := by
  have hkeep : ∀ d ∈ percentChar c, plusToSpace d = id d := by
    intro d hd
    refine if_neg ?_
    rintro rfl
    rcases mem_percentChar hd with he | he <;> cases he
  rw [List.map_congr_left hkeep, List.map_id]

/-- **A character that was written is read.** -/
theorem percentDecode_formChar (c : Char) (cs : List Char) :
    percentDecode ((formChar c ++ cs).map plusToSpace) =
      String.utf8EncodeChar c ++ percentDecode (cs.map plusToSpace) := by
  rw [List.map_append]
  unfold formChar
  split
  · next hc =>
    rw [hc]
    exact percentDecode_cons (by decide) _
  · split
    · next hc =>
      have hplus : c ≠ '+' := by
        rintro rfl
        cases hc
      have hpercent : c ≠ '%' := by
        rintro rfl
        cases hc
      rw [List.map_singleton, plusToSpace, if_neg hplus]
      exact percentDecode_cons hpercent _
    · rw [map_plusToSpace_percentChar, percentChar, percentDecode_bytes]

theorem percentDecode_formEncode (cs : List Char) :
    percentDecode ((cs.flatMap formChar).map plusToSpace) = Utf8.encode cs := by
  induction cs with
  | nil => rfl
  | cons c cs ih => rw [List.flatMap_cons, percentDecode_formChar, ih, Utf8.encode, Utf8.encode, List.flatMap_cons]

/-- **A text is read as it was written.** -/
theorem formDecode?_formEncode (s : String) : formDecode? (formEncode s).toList = some s := by
  rw [formDecode?, toList_formEncode, percentDecode_formEncode, Utf8.decode_eq_ok_iff.mpr rfl]
  exact congrArg some String.ofList_toList

/-! ### Fields -/

/-- How a field is written. -/
def formText (field : String × String) : String :=
  formEncode field.1 ++ "=" ++ formEncode field.2

theorem formField?_formText (field : String × String) : formField? (formText field).toList = some field := by
  have hsplit : splitOn '=' (formText field).toList =
      [(formEncode field.1).toList, (formEncode field.2).toList] := by
    have htext : (formText field).toList = (formEncode field.1).toList ++ '=' :: (formEncode field.2).toList := by
      simp [formText]
    rw [htext, splitOn_append, splitOn_of_not_mem (not_mem_formEncode (.inr rfl) _),
      splitOn_of_not_mem (not_mem_formEncode (.inr rfl) _), List.singleton_append]
  rw [formField?, hsplit]
  simp only [formDecode?_formEncode, Option.bind_some, Option.map_some]

theorem not_mem_formText (field : String × String) : '&' ∉ (formText field).toList := by
  have hname := not_mem_formEncode (.inl rfl) field.1
  have hvalue := not_mem_formEncode (.inl rfl) field.2
  simp [formText, hname, hvalue]

/-- **The fields of a form are read as they were written.** -/
theorem formFields?_formBody {fields : List (String × String)} (hne : fields ≠ []) :
    formFields? (formBody fields) = some fields := by
  have hsep : "&".toList = ['&'] := by simp
  have hsplit : splitOn '&' (formBody fields).toList = fields.map fun field => (formText field).toList := by
    have htext : (formBody fields).toList = ['&'].intercalate (fields.map fun field => (formText field).toList) := by
      rw [formBody, String.toList_intercalate, hsep, List.map_map]
      rfl
    rw [htext, splitOn_intercalate (by simpa using hne)]
    intro part hpart
    obtain ⟨field, -, rfl⟩ := List.mem_map.mp hpart
    exact not_mem_formText field
  rw [formFields?, hsplit]
  clear hne hsplit
  induction fields with
  | nil => rfl
  | cons field fields ih =>
    rw [List.map_cons, List.mapM_cons, formField?_formText, ih]
    rfl

end SourceWatch.Text

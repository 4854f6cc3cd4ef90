/-!
# Texts of code points

An escape sequence in a document may name a surrogate on its own, which is no character. Texts that
come from such documents are lists of code points; all others are strings.

Main definitions:

* `CodePoint`, `CodeText`: code points, surrogates included, and texts of them.
* `CodeText.ofString`: a string as such a text.
* `CodeText.toString?`: the string that a text without surrogates is.
-/

namespace SourceWatch.Text

/-- A code point of Unicode; surrogates count. -/
abbrev CodePoint := Fin 0x110000

/-- The code point of a character. -/
def CodePoint.ofChar (c : Char) : CodePoint :=
  ⟨c.toNat, by
    have := c.valid
    simp only [UInt32.isValidChar, Nat.isValidChar] at this
    show c.val.toNat < _
    omega⟩

/-- The character at a code point, unless it is a surrogate. -/
def CodePoint.toChar? (p : CodePoint) : Option Char :=
  if h : p.val.isValidChar then some (Char.ofNatAux p.val h) else none

/-- A text that may hold surrogates. -/
abbrev CodeText := List CodePoint

namespace CodeText

/-- A text without surrogates. -/
def ofChars (cs : List Char) : CodeText :=
  cs.map CodePoint.ofChar

/-- A string as a text of code points. -/
def ofString (s : String) : CodeText :=
  ofChars s.toList

/-- The characters of a text, `none` if it holds a surrogate. -/
def toChars? (t : CodeText) : Option (List Char) :=
  t.mapM CodePoint.toChar?

/-- The string that a text is, `none` if it holds a surrogate. -/
def toString? (t : CodeText) : Option String :=
  t.toChars?.map String.ofList

end CodeText

theorem CodePoint.toChar?_ofChar (c : Char) : (CodePoint.ofChar c).toChar? = some c := by
  have h : (CodePoint.ofChar c).val.isValidChar := c.valid
  rw [CodePoint.toChar?, dif_pos h]
  rfl

theorem CodeText.toChars?_ofChars (cs : List Char) : (CodeText.ofChars cs).toChars? = some cs := by
  induction cs with
  | nil => rfl
  | cons c cs ih =>
    simp only [CodeText.toChars?, CodeText.ofChars] at ih
    simp [CodeText.toChars?, CodeText.ofChars, CodePoint.toChar?_ofChar, ih]

theorem CodeText.toString?_ofString (s : String) : (CodeText.ofString s).toString? = some s := by
  simp [CodeText.toString?, CodeText.ofString, CodeText.toChars?_ofChars]

end SourceWatch.Text

import SourceWatch.Text.Hexadecimal
import SourceWatch.Text.Utf8

/-!
# Percent encoding

A character that may not stand for itself is written as the bytes of its UTF-8 form, each as a percent
sign and two hexadecimal digits. In the fields of a form a space is written as a plus sign.

Main definitions:

* `percentEncode`: a text in which the characters outside a class are encoded.
* `percentDecode`: the bytes that a text stands for.
* `formEncode`: the value of a form field.
* `formBody`: the fields of a form.
-/

namespace SourceWatch.Text

/-- A byte as a percent sign and two digits. -/
def percentByte (b : UInt8) : List Char :=
  ['%', upperHexDigit (b.toNat / 16), upperHexDigit (b.toNat % 16)]

/-- A character by the bytes of its UTF-8 form. -/
def percentChar (c : Char) : List Char :=
  (String.utf8EncodeChar c).flatMap percentByte

/-- A text in which the characters outside a class are encoded. -/
def percentEncode (keeps : Char → Bool) (cs : List Char) : List Char :=
  cs.flatMap fun c => if keeps c then [c] else percentChar c

/-- The bytes that a text stands for. A percent sign without two hexadecimal digits behind it stands for
itself. -/
def percentDecode : List Char → List UInt8
  | [] => []
  | '%' :: a :: b :: cs =>
    match hexValue? a, hexValue? b with
    | some high, some low => UInt8.ofNat (16 * high + low) :: percentDecode cs
    | _, _ => String.utf8EncodeChar '%' ++ percentDecode (a :: b :: cs)
  | c :: cs => String.utf8EncodeChar c ++ percentDecode cs

/-- Whether a character stands for itself everywhere. -/
def isUnreserved (c : Char) : Bool :=
  c.isAlphanum || c = '-' || c = '.' || c = '_' || c = '~'

/-- The value of a form field. -/
def formEncode (s : String) : String :=
  String.ofList (s.toList.flatMap fun c =>
    if c = ' ' then ['+'] else if isUnreserved c then [c] else percentChar c)

/-- The fields of a form, names and values, in order. -/
def formBody (fields : List (String × String)) : String :=
  "&".intercalate (fields.map fun field => formEncode field.1 ++ "=" ++ formEncode field.2)

end SourceWatch.Text

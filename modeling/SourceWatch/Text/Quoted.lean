import SourceWatch.Text.CodePoint
import SourceWatch.Text.Hexadecimal
import SourceWatch.Text.Printable

/-!
# Quoted texts

Messages quote a text between apostrophes, or between double quotes if it holds an apostrophe and no
double quote. The quote in use and the backslash are escaped by a backslash; tabulators and line ends
have short escapes; any other unprintable code point is written by its number in two, four or eight
hexadecimal digits.

Main definitions:

* `quoteCode`: a text of code points in quotes.
* `quote`: a string in quotes.
-/

namespace SourceWatch.Text

/-- A code point by its number, in the shortest of the three escapes that holds it. -/
def escapeNumber (n : Nat) : List Char :=
  if n < 0x100 then '\\' :: 'x' :: hexDigits 2 n
  else if n < 0x10000 then '\\' :: 'u' :: hexDigits 4 n
  else '\\' :: 'U' :: hexDigits 8 n

/-- A code point as it stands between the quotes `mark`. -/
def quotePoint (mark : Char) (p : CodePoint) : List Char :=
  match p.toChar? with
  | none => escapeNumber p.val
  | some c =>
    if c = mark then ['\\', mark]
    else if c = '\\' then ['\\', '\\']
    else if c = '\t' then ['\\', 't']
    else if c = '\n' then ['\\', 'n']
    else if c = '\r' then ['\\', 'r']
    else if isPrintable p.val then [c]
    else escapeNumber p.val

/-- The mark that a text is quoted with. -/
def quoteMark (t : CodeText) : Char :=
  if t.contains (CodePoint.ofChar '\x27') && !t.contains (CodePoint.ofChar '"') then '"' else '\x27'

/-- A text of code points in quotes. -/
def quoteCode (t : CodeText) : String :=
  let mark := quoteMark t
  String.ofList (mark :: t.flatMap (quotePoint mark) ++ [mark])

/-- A string in quotes. -/
def quote (s : String) : String :=
  quoteCode (CodeText.ofString s)

end SourceWatch.Text

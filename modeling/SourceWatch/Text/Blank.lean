/-!
# Blank characters

Two neighbouring notions of white space are in use. A *blank* is what the pattern language and the
trimming of configured words call white space: the separators of Unicode together with the four
ASCII information separators. A number written as a text, in a configuration or as an argument, is
trimmed of Unicode white space only, which leaves those four out.

Main definitions:

* `isBlank`: the blanks.
* `isWhiteSpace`: the blanks without the information separators.
* `stripWhere`: a text without the characters of a class at its two ends.
* `strip`: a text without the blanks at its two ends.
-/

namespace SourceWatch.Text

/-- Whether a character is a blank. -/
def isBlank (c : Char) : Bool :=
  let n := c.toNat
  (9 ≤ n && n ≤ 13) || (28 ≤ n && n ≤ 32) || n == 0x85 || n == 0xA0 || n == 0x1680 ||
    (0x2000 ≤ n && n ≤ 0x200A) || n == 0x2028 || n == 0x2029 || n == 0x202F || n == 0x205F ||
    n == 0x3000

/-- Whether a character is white space in the sense of Unicode. -/
def isWhiteSpace (c : Char) : Bool :=
  isBlank c && !(28 ≤ c.toNat && c.toNat ≤ 31)

/-- A text without the characters of a class at its two ends. -/
def stripWhere (p : Char → Bool) (cs : List Char) : List Char :=
  ((cs.dropWhile p).reverse.dropWhile p).reverse

/-- A text without the blanks at its two ends. -/
def strip (cs : List Char) : List Char :=
  stripWhere isBlank cs

end SourceWatch.Text

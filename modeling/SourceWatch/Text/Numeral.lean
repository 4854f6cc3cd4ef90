import SourceWatch.Text.Blank
import SourceWatch.Text.DecimalDigit

/-!
# Whole numbers in any script

A whole number may be typed with the decimal digits of any script, with a sign in front, with single
low lines between its digits and with white space around it; the information separators, which are
blanks, are no such white space. Numbers of more than 4300 digits are refused.

Main definition: `readNumeral`.
-/

namespace SourceWatch.Text

/-- The greatest number of digits. -/
def numeralLimit : Nat := 4300

/-- The values of digits between which single low lines stand. -/
def numeralDigits : List Char → Option (List Nat)
  | [] => none
  | [c] => (digitValue? c).map ([·])
  | c :: '_' :: cs => (digitValue? c).bind fun d => (numeralDigits cs).map (d :: ·)
  | c :: cs => (digitValue? c).bind fun d => (numeralDigits cs).map (d :: ·)

/-- The number that digits write. -/
def numeralValue (digits : List Nat) : Nat :=
  digits.foldl (fun n d => 10 * n + d) 0

/-- The sign at the start of a numeral and the text behind it. -/
def numeralSign : List Char → Bool × List Char
  | '+' :: cs => (false, cs)
  | '-' :: cs => (true, cs)
  | cs => (false, cs)

/-- The whole number that a text writes. -/
def readNumeral (cs : List Char) : Option Int :=
  let (negative, body) := numeralSign (stripWhere isWhiteSpace cs)
  match numeralDigits body with
  | none => none
  | some digits =>
    if numeralLimit < digits.length then none
    else
      let n : Int := numeralValue digits
      some (if negative then -n else n)

example : readNumeral " +1_0 ".toList = some 10 ∧ readNumeral "-٣".toList = some (-3) := by
  decide +kernel
example : readNumeral "1__0".toList = none ∧ readNumeral "_1".toList = none ∧
    readNumeral "\x1c5".toList = none := by
  decide +kernel

end SourceWatch.Text

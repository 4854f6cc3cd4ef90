import SourceWatch.Decimal.Binary64

/-!
# The shortest decimal form of a double-precision number

A number is written with the fewest significant digits that read back as the same number, and of the
forms with that many digits the nearest one. From `10 ^ -4` up to below `10 ^ 16` the form is
positional and keeps one digit after the point; outside it carries an exponent of at least two
digits.

Main definitions:

* `Binary64.Interval`, `Binary64.interval`: the reals that are read as a number.
* `Binary64.shortest`: the digits and their power of ten.
* `Binary64.render`: the written form.
-/

namespace SourceWatch.Binary64

/-- The reals that are read as one number, in units of `1 / denominator`: the number itself, the two
ends of the interval around it, and whether the ends belong to it. -/
structure Interval where
  value : Nat
  low : Nat
  high : Nat
  closed : Bool
  denominator : Nat

/-- The interval of a positive number `mantissa · 2 ^ exponent`. Below a power of two the neighbour is
only half as far. -/
def interval (mantissa : Nat) (exponent : Int) : Interval :=
  let up := Nat.pow 2 exponent.toNat
  let narrow := mantissa = Nat.pow 2 52 ∧ minExponent < exponent
  { value := 4 * mantissa * up
    low := (4 * mantissa - if narrow then 1 else 2) * up
    high := (4 * mantissa + 2) * up
    closed := mantissa % 2 = 0
    denominator := 4 * Nat.pow 2 (-exponent).toNat }

/-- Whether `numerator / divisor` lies in an interval. -/
def Interval.holds (i : Interval) (numerator divisor : Nat) : Bool :=
  let x := numerator * i.denominator
  if i.closed then i.low * divisor ≤ x && x ≤ i.high * divisor
  else i.low * divisor < x && x < i.high * divisor

/-- A decimal `digits · 10 ^ exponent`. -/
structure Scaled where
  digits : Nat
  exponent : Int
  deriving DecidableEq

/-- The numerator and the divisor of a decimal. -/
def Scaled.ratio (s : Scaled) : Nat × Nat :=
  (s.digits * Nat.pow 10 s.exponent.toNat, Nat.pow 10 (-s.exponent).toNat)

/-- The decimal with unit `10 ^ exponent` that lies in an interval: one of the two neighbours of its
value, the nearer one if both do, the even one if both are equally near. -/
def onGrid (i : Interval) (exponent : Int) : Option Scaled :=
  let up := Nat.pow 10 exponent.toNat
  let down := Nat.pow 10 (-exponent).toNat
  let numerator := i.value * down
  let divisor := i.denominator * up
  let below := numerator / divisor
  let inside (n : Nat) : Bool :=
    let (x, d) := (Scaled.mk n exponent).ratio
    i.holds x d
  let twice := 2 * (numerator % divisor)
  let preferBelow := twice < divisor ∨ (twice = divisor ∧ below % 2 = 0)
  match inside below, inside (below + 1) with
  | true, true => some ⟨if preferBelow then below else below + 1, exponent⟩
  | true, false => some ⟨below, exponent⟩
  | false, true => some ⟨below + 1, exponent⟩
  | false, false => none

/-- The first of the exponents `top`, `top - 1`, … whose grid meets an interval. -/
def firstOnGrid (i : Interval) (top : Int) : (tries : Nat) → Option Scaled
  | 0 => none
  | tries + 1 =>
    match onGrid i top with
    | some s => if s.digits = 0 then firstOnGrid i (top - 1) tries else some s
    | none => firstOnGrid i (top - 1) tries

/-- The shortest decimal that reads back as `mantissa · 2 ^ exponent`. A power of ten above the number
is found from its binary logarithm, and the grids are tried from there downwards. -/
def shortest (mantissa : Nat) (exponent : Int) : Scaled :=
  let bits : Int := (mantissa.log2 : Int) + exponent
  let top := bits * 30103 / 100000 + 2
  (firstOnGrid (interval mantissa exponent) top 24).getD ⟨0, 0⟩

/-- An exponent with its sign and at least two digits. -/
def renderExponent (e : Int) : String :=
  let digits := toString e.natAbs
  (if e < 0 then "-" else "+") ++ (if digits.length < 2 then "0" ++ digits else digits)

/-- The digits of a number without the zeros at its end. -/
def significant (n : Nat) : List Char :=
  ((Nat.toDigits 10 n).reverse.dropWhile (· = '0')).reverse

/-- The written form of the positive decimal `0.d₁d₂… · 10 ^ point`. -/
def renderDigits (digits : List Char) (point : Int) : String :=
  if -3 ≤ point ∧ point ≤ 16 then
    if point ≤ 0 then
      "0." ++ String.ofList (List.replicate (-point).toNat '0' ++ digits)
    else
      let n := point.toNat
      let whole := digits.take n ++ List.replicate (n - digits.length) '0'
      let fraction := digits.drop n
      String.ofList whole ++ "." ++ (if fraction.isEmpty then "0" else String.ofList fraction)
  else
    let lead := String.ofList (digits.take 1)
    let tail := String.ofList (digits.drop 1)
    lead ++ (if tail.isEmpty then "" else "." ++ tail) ++ "e" ++ renderExponent (point - 1)

/-- The shortest written form of a number. -/
def render : Binary64 → String
  | nan => "nan"
  | infinite negative => if negative then "-inf" else "inf"
  | finite negative mantissa exponent =>
    let sign := if negative then "-" else ""
    if mantissa = 0 then sign ++ "0.0"
    else
      let s := shortest mantissa exponent
      let digits := Nat.toDigits 10 s.digits
      sign ++ renderDigits (significant s.digits) (digits.length + s.exponent)

end SourceWatch.Binary64

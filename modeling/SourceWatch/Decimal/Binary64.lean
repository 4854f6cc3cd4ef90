/-!
# Double-precision numbers

A number with a fraction or an exponent is kept as the double-precision number nearest to it, in
exact integer arithmetic. A finite number is `± mantissa · 2 ^ exponent`; its mantissa has 53 bits
unless the exponent is the least one.

Main definitions:

* `Binary64`: finite numbers, the infinities and the one that is not a number.
* `Binary64.ofRatio`: the number nearest to a fraction, halves going to the even mantissa.
* `Binary64.ofDecimal`: the number nearest to `digits · 10 ^ exponent`.
* `Binary64.toInt?`: the integer that a number is.
-/

namespace SourceWatch

/-- A double-precision number. -/
inductive Binary64 where
  | nan
  | infinite (negative : Bool)
  | finite (negative : Bool) (mantissa : Nat) (exponent : Int)
  deriving DecidableEq

namespace Binary64

/-- The least exponent of a finite number. -/
def minExponent : Int := -1074

/-- The greatest exponent of a finite number. -/
def maxExponent : Int := 971

/-- A quotient rounded to the nearest integer, halves to the even one. -/
def roundQuotient (numerator denominator : Nat) : Nat :=
  let quotient := numerator / denominator
  let twice := 2 * (numerator % denominator)
  if twice < denominator ∨ (twice = denominator ∧ quotient % 2 = 0) then quotient else quotient + 1

/-- The integer part of `numerator / denominator / 2 ^ exponent`, as a fraction. -/
def scaled (numerator denominator : Nat) (exponent : Int) : Nat × Nat :=
  if 0 ≤ exponent then (numerator, denominator * Nat.pow 2 exponent.toNat)
  else (numerator * Nat.pow 2 (-exponent).toNat, denominator)

/-- The exponent at which a positive fraction has a mantissa of 53 bits, or the least exponent. -/
def exponentFor (numerator denominator : Nat) : Int :=
  let guess : Int := (numerator.log2 : Int) - denominator.log2 - 53
  let (n, d) := scaled numerator denominator guess
  max minExponent (if n / d < Nat.pow 2 53 then guess else guess + 1)

/-- The number nearest to `± numerator / denominator`. -/
def ofRatio (negative : Bool) (numerator denominator : Nat) : Binary64 :=
  if numerator = 0 then .finite negative 0 minExponent
  else
    let exponent := exponentFor numerator denominator
    let (n, d) := scaled numerator denominator exponent
    let mantissa := roundQuotient n d
    let (mantissa, exponent) :=
      if mantissa = Nat.pow 2 53 then (Nat.pow 2 52, exponent + 1) else (mantissa, exponent)
    if maxExponent < exponent then .infinite negative else .finite negative mantissa exponent

/-- The number nearest to `± digits · 10 ^ exponent`, where `digits` is written with `width` digits.
Far outside the finite range the answer is known without computing the power of ten. -/
def ofDecimal (negative : Bool) (digits width : Nat) (exponent : Int) : Binary64 :=
  if digits = 0 then .finite negative 0 minExponent
  else if (width : Int) + exponent < -400 then .finite negative 0 minExponent
  else if 0 ≤ exponent then
    if 400 < exponent then .infinite negative
    else ofRatio negative (digits * Nat.pow 10 exponent.toNat) 1
  else ofRatio negative digits (Nat.pow 10 (-exponent).toNat)

/-- The integer that a number is, `none` if it has a fraction or is not finite. -/
def toInt? : Binary64 → Option Int
  | nan | infinite _ => none
  | finite negative mantissa exponent =>
    let magnitude? :=
      if 0 ≤ exponent then some (mantissa * Nat.pow 2 exponent.toNat)
      else
        let unit := Nat.pow 2 (-exponent).toNat
        if mantissa % unit = 0 then some (mantissa / unit) else none
    magnitude?.map fun n => if negative then -(n : Int) else n

/-- Whether a number is finite. -/
def isFinite : Binary64 → Bool
  | finite .. => true
  | _ => false

end Binary64

end SourceWatch

/-!
# Double-precision numbers

The magnitudes of IEEE 754 binary64 as exact integers: a magnitude is
`significand · 2 ^ exponent`, and every operation is the exact rational result
rounded to the nearest magnitude, a tie going to the even significand.  Nothing
here uses machine floating point, so each operation computes in proofs as it
does when run.

`Magnitude.ofRatio?` is the rounding; `Magnitude.scaledByTen?` is how a decimal
literal is turned into a magnitude: its digits are rounded first and the power
of ten is applied by one multiplication, or by divisions by at most `10 ^ 308`
each.
-/

namespace RegistryClient.Decimal

/-- A finite binary64 magnitude, `significand · 2 ^ exponent`. -/
structure Magnitude where
  significand : Nat
  exponent : Int
deriving DecidableEq, Repr, Inhabited

/-- A finite binary64 number. -/
structure Double where
  negative : Bool
  magnitude : Magnitude
deriving DecidableEq, Repr, Inhabited

/-- The quotient rounded to the nearest integer, a tie going to the even one. -/
def roundHalfEven (numerator denominator : Nat) : Nat :=
  let quotient := numerator / denominator
  let remainder := numerator % denominator
  if 2 * remainder < denominator then quotient
  else if denominator < 2 * remainder then quotient + 1
  else quotient + quotient % 2

namespace Magnitude

/-- The least exponent of a magnitude; below it the significand loses bits. -/
def leastExponent : Int := -1074

/-- The greatest exponent of a magnitude. -/
def greatestExponent : Int := 971

/-- Significands are below this power of two: they have 53 bits. -/
def significandBound : Nat := Nat.pow 2 53

/-- The least significand of a magnitude above the least exponent. -/
def leastNormal : Nat := Nat.pow 2 52

def zero : Magnitude := ⟨0, leastExponent⟩

/-- The two sides of a fraction after division by a power of two. -/
def descaled (numerator denominator : Nat) (exponent : Int) : Nat × Nat :=
  if 0 ≤ exponent then (numerator, denominator * Nat.pow 2 exponent.toNat)
  else (numerator * Nat.pow 2 (-exponent).toNat, denominator)

/-- The exponent at which the significand of a fraction has 53 bits, or the
least exponent when that is greater. -/
def exponentOf (numerator denominator : Nat) : Int :=
  let estimate : Int := (Nat.log2 numerator : Int) - Nat.log2 denominator - 53
  let (scaledNumerator, scaledDenominator) := descaled numerator denominator estimate
  let exact :=
    if scaledNumerator / scaledDenominator < significandBound then estimate else estimate + 1
  max exact leastExponent

/-- The magnitude nearest to a fraction; `none` above the greatest magnitude. -/
def ofRatio? (numerator denominator : Nat) : Option Magnitude :=
  if numerator = 0 then some zero
  else
    let exponent := exponentOf numerator denominator
    let (scaledNumerator, scaledDenominator) := descaled numerator denominator exponent
    let significand := roundHalfEven scaledNumerator scaledDenominator
    let rounded : Magnitude :=
      if significand = significandBound then ⟨leastNormal, exponent + 1⟩
      else ⟨significand, exponent⟩
    if rounded.exponent ≤ greatestExponent then some rounded else none

/-- The magnitude as a fraction. -/
def toRatio (value : Magnitude) : Nat × Nat :=
  if 0 ≤ value.exponent then (value.significand * Nat.pow 2 value.exponent.toNat, 1)
  else (value.significand, Nat.pow 2 (-value.exponent).toNat)

/-- The rounded product; `none` when it is too large. -/
def mul? (left right : Magnitude) : Option Magnitude :=
  let (leftNumerator, leftDenominator) := left.toRatio
  let (rightNumerator, rightDenominator) := right.toRatio
  ofRatio? (leftNumerator * rightNumerator) (leftDenominator * rightDenominator)

/-- The rounded quotient; `none` when it is too large. -/
def div? (left right : Magnitude) : Option Magnitude :=
  let (leftNumerator, leftDenominator) := left.toRatio
  let (rightNumerator, rightDenominator) := right.toRatio
  ofRatio? (leftNumerator * rightDenominator) (leftDenominator * rightNumerator)

/-- The greatest power of ten that is a magnitude, `10 ^ 308`. -/
def greatestPowerOfTen : Nat := 308

/-- The magnitude nearest to a power of ten. -/
def powerOfTen? (power : Nat) : Option Magnitude :=
  ofRatio? (Nat.pow 10 power) 1

/-- A magnitude divided by `10 ^ 308` so many times; zero stays as it is. -/
def shrink? (value : Magnitude) : (times : Nat) → Option Magnitude
  | 0 => some value
  | times + 1 =>
    if value.significand = 0 then some value
    else
      match (powerOfTen? greatestPowerOfTen).bind value.div? with
      | none => none
      | some smaller => smaller.shrink? times

/-- A magnitude divided by a power of ten, `10 ^ 308` at a time and what remains
of the power at last. -/
def shrinkByTen? (value : Magnitude) (power : Nat) : Option Magnitude :=
  let times := (power - 1) / greatestPowerOfTen
  (value.shrink? times).bind fun smaller =>
    (powerOfTen? (power - times * greatestPowerOfTen)).bind smaller.div?

/-- An integer times a power of ten, the integer rounded before it is scaled;
`none` when the product is too large. -/
def scaledByTen? (integer : Nat) (power : Int) : Option Magnitude :=
  (ofRatio? integer 1).bind fun value =>
    if power < 0 then value.shrinkByTen? (-power).toNat
    else if value.significand = 0 then some value
    else if power.toNat ≤ greatestPowerOfTen then (powerOfTen? power.toNat).bind value.mul?
    else none

end Magnitude

end RegistryClient.Decimal

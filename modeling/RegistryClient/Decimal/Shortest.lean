import RegistryClient.Decimal.Binary64

/-!
# The shortest decimal of a double-precision number

Many decimals round to one binary64 magnitude.  `Magnitude.shortest` finds one
with the fewest significant digits, and of those the nearest to the magnitude.

The decimals that round to `m · 2 ^ q` form an interval around it, reaching half
way to each neighbour; the ends belong to it when `m` is even.  For one digit,
two digits, and so on, only the two points of that decimal grid beside the
magnitude can be the nearest in the interval, so it is enough to test those.
-/

namespace RegistryClient.Decimal

/-- A decimal, `digits · 10 ^ power`. -/
structure Scientific where
  digits : Nat
  power : Int
deriving DecidableEq, Repr, Inhabited

namespace Scientific

/-- The digits of the decimal, the first one first. -/
def digitChars (decimal : Scientific) : List Char :=
  Nat.toDigits 10 decimal.digits

/-- The power of ten of the first digit. -/
def leadingPower (decimal : Scientific) : Int :=
  decimal.power + decimal.digitChars.length - 1

/-- The decimal as a fraction. -/
def toRatio (decimal : Scientific) : Nat × Nat :=
  if 0 ≤ decimal.power then (decimal.digits * Nat.pow 10 decimal.power.toNat, 1)
  else (decimal.digits, Nat.pow 10 (-decimal.power).toNat)

/-- The same decimal without zeros at the end of its digits, at most `bound` of them. -/
def withoutTrailingZeros (decimal : Scientific) : (bound : Nat) → Scientific
  | 0 => decimal
  | bound + 1 =>
    if decimal.digits ≠ 0 ∧ decimal.digits % 10 = 0 then
      withoutTrailingZeros ⟨decimal.digits / 10, decimal.power + 1⟩ bound
    else decimal

end Scientific

/-- The power of ten of the first digit of a positive fraction. -/
def leadingPowerOfRatio (numerator denominator : Nat) : Int :=
  if denominator ≤ numerator then
    ((Nat.toDigits 10 (numerator / denominator)).length : Int) - 1
  else
    -- The least power of ten that is at least the inverse, which exceeds one.
    let inverse := (denominator + numerator - 1) / numerator
    Int.neg (Nat.toDigits 10 (inverse - 1)).length

namespace Magnitude

/-- The interval of fractions that round to a magnitude, with a common denominator. -/
structure Neighbourhood where
  lower : Nat
  upper : Nat
  denominator : Nat
  closed : Bool
deriving Repr

/-- The interval reaches half way to the neighbours.  Below a power of two the
neighbour is half as far. -/
def neighbourhood (value : Magnitude) : Neighbourhood :=
  let narrow := value.significand = leastNormal ∧ leastExponent < value.exponent
  let lower := if narrow then 4 * value.significand - 1 else 4 * value.significand - 2
  let upper := 4 * value.significand + 2
  let closed := value.significand % 2 == 0
  let exponent := value.exponent - 2
  if 0 ≤ exponent then
    ⟨lower * Nat.pow 2 exponent.toNat, upper * Nat.pow 2 exponent.toNat, 1, closed⟩
  else ⟨lower, upper, Nat.pow 2 (-exponent).toNat, closed⟩

/-- A decimal that rounds to the magnitude with this neighbourhood. -/
def Neighbourhood.contains (interval : Neighbourhood) (decimal : Scientific) : Bool :=
  let (numerator, denominator) := decimal.toRatio
  let point := numerator * interval.denominator
  if interval.closed then
    interval.lower * denominator ≤ point && point ≤ interval.upper * denominator
  else
    interval.lower * denominator < point && point < interval.upper * denominator

/-- Among the decimals with so many digits, the nearest one that rounds to the
magnitude, when there is one. -/
def nearestWithDigits? (value : Magnitude) (digitCount : Nat) : Option Scientific :=
  let (numerator, denominator) := value.toRatio
  let power := leadingPowerOfRatio numerator denominator - digitCount + 1
  let (scaledNumerator, scaledDenominator) :=
    if 0 ≤ power then (numerator, denominator * Nat.pow 10 power.toNat)
    else (numerator * Nat.pow 10 (-power).toNat, denominator)
  let below : Scientific := ⟨scaledNumerator / scaledDenominator, power⟩
  let above : Scientific := ⟨scaledNumerator / scaledDenominator + 1, power⟩
  let interval := value.neighbourhood
  match interval.contains below, interval.contains above with
  | true, true => some ⟨roundHalfEven scaledNumerator scaledDenominator, power⟩
  | true, false => some below
  | false, true => some above
  | false, false => none

/-- The first of the digit counts from `digitCount` on that has a decimal
rounding to the magnitude; seventeen digits always do. -/
def shortestFrom (value : Magnitude) (digitCount : Nat) : (attempts : Nat) → Scientific
  | 0 => ⟨value.significand, 0⟩
  | attempts + 1 =>
    match value.nearestWithDigits? digitCount with
    | some decimal => decimal.withoutTrailingZeros 17
    | none => value.shortestFrom (digitCount + 1) attempts

/-- The decimal with the fewest digits that rounds to the magnitude, the nearest of them. -/
def shortest (value : Magnitude) : Scientific :=
  if value.significand = 0 then ⟨0, 0⟩ else value.shortestFrom 1 17

end Magnitude

end RegistryClient.Decimal

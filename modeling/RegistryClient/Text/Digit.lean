/-!
# Digits

Numerals in a base up to sixteen: the value of a digit, the number that a run of
digits denotes, the digit with a given value, and the greatest number of a
width.  The escapes of JSON, XML, YAML and request paths all read and write their
numbers here; decimal numerals are written by `Nat.toDigits`.
-/

namespace RegistryClient.Text

/-- The value of a hexadecimal digit, in either case. -/
def hexValue? (c : Char) : Option Nat :=
  let code := c.toNat
  if 0x30 ≤ code ∧ code ≤ 0x39 then some (code - 0x30)
  else if 0x41 ≤ code ∧ code ≤ 0x46 then some (code - 0x41 + 10)
  else if 0x61 ≤ code ∧ code ≤ 0x66 then some (code - 0x61 + 10)
  else none

/-- The value of a digit in the given base. -/
def digitValue? (base : Nat) (c : Char) : Option Nat :=
  (hexValue? c).bind fun value => if value < base then some value else none

/-- The number that digits in the given base denote after a number read so far. -/
def numeralFrom? (base : Nat) : Nat → List Char → Option Nat
  | soFar, [] => some soFar
  | soFar, c :: rest =>
    (digitValue? base c).bind fun value => numeralFrom? base (soFar * base + value) rest

/-- The number that a non-empty run of digits in the given base denotes. -/
def numeral? (base : Nat) (digits : List Char) : Option Nat :=
  if digits.isEmpty then none else numeralFrom? base 0 digits

/-- The upper-case digit with a value below sixteen. -/
def upperDigit (value : Nat) : Char :=
  if value < 10 then Char.ofNat (0x30 + value) else Char.ofNat (0x41 + value - 10)

/-- The lower-case hexadecimal numeral of a number, with leading zeros up to a width. -/
def hexPadded (width : Nat) (number : Nat) : List Char :=
  let digits := Nat.toDigits 16 number
  List.replicate (width - digits.length) '0' ++ digits

/-- The greatest number that fits in so many bits. -/
def greatestOfBits (bits : Nat) : Nat := Nat.pow 2 bits - 1

/-- The character with a code point, when that code point is a Unicode scalar value. -/
def scalar? (code : Nat) : Option Char :=
  if code.isValidChar then some (Char.ofNat code) else none

end RegistryClient.Text

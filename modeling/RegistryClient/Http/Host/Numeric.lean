import RegistryClient.Text.Blank
import RegistryClient.Text.Cut
import RegistryClient.Text.Digit

/-!
# Hosts written as numbers

A host whose last label is a number is an address of 32 bits: up to four numbers with
points between them, each for one byte but the last, which is for all bytes that are
left.  A number is decimal, octal after a zero, or hexadecimal after `0x`.

A host in brackets is an address of 128 bits: eight groups of up to four hexadecimal
digits, where two colons in a row stand for at least one group, and the last two
groups may be written as the four bytes of an address of 32 bits.
-/

namespace RegistryClient.Http.Host

open Text

/-! ## 32 bits -/

/-- A number in one of its three bases; the mark of a base alone is zero. -/
def number? : List Char → Option Nat
  | '0' :: 'x' :: digits => if digits.isEmpty then some 0 else numeral? 16 digits
  | '0' :: c :: digits => numeral? 8 (c :: digits)
  | digits => numeral? 10 digits

/-- The last label of a host, or the one before it when the last is empty. -/
def lastLabel? (labels : List (List Char)) : Option (List Char) :=
  match labels.reverse with
  | [] :: label :: _ => some label
  | label :: _ => some label
  | [] => none

/-- A label that makes the host a number: a number, or digits that would be one in a
greater base. -/
def isNumeric (label : List Char) : Bool :=
  (!label.isEmpty && label.all Char.isDigit) || (number? label).isSome

/-- The labels without an empty one at their end. -/
def withoutEmptyEnd (labels : List (List Char)) : List (List Char) :=
  if labels.getLast? == some [] then labels.dropLast else labels

/-- The labels make up an address of 32 bits. -/
def isShortAddress (labels : List (List Char)) : Bool :=
  match (withoutEmptyEnd labels).mapM number? with
  | none => false
  | some numbers =>
    match numbers.reverse with
    | [] => false
    | last :: bytes =>
      bytes.length < 4 && bytes.all (· ≤ 255) && last < Nat.pow 256 (4 - bytes.length)

/-! ## 128 bits -/

/-- A byte in decimal digits without superfluous zeros. -/
def isByte (digits : List Char) : Bool :=
  (digits.length = 1 || digits.head? ≠ some '0') && (numeral? 10 digits).any (· ≤ 255)

/-- The bytes of an address of 32 bits. -/
def isByteAddress (chars : List Char) : Bool :=
  let bytes := splitChars '.' chars
  bytes.length = 4 && bytes.all isByte

/-- A group of digits. -/
def isGroup (digits : List Char) : Bool :=
  digits.length ≤ 4 && (numeral? 16 digits).isSome

/-- How many groups there are between colons; the last two may be written as bytes. -/
def groupCount? (mayEndInBytes : Bool) : List (List Char) → Option Nat
  | [] => some 0
  | [last] =>
    if isGroup last then some 1
    else if mayEndInBytes && isByteAddress last then some 2
    else none
  | group :: rest =>
    if isGroup group then (groupCount? mayEndInBytes rest).map (· + 1) else none

/-- How many groups are written in a text, which may have none. -/
def groupsIn? (mayEndInBytes : Bool) (chars : List Char) : Option Nat :=
  if chars.isEmpty then some 0 else groupCount? mayEndInBytes (splitChars ':' chars)

/-- The characters between the brackets are an address of 128 bits. -/
def isLongAddress (chars : List Char) : Bool :=
  match cutAt? [':', ':'] chars with
  | none => groupsIn? true chars == some 8
  | some (before, after) =>
    match groupsIn? false before, groupsIn? true after with
    | some first, some second => first + second ≤ 7
    | _, _ => false

end RegistryClient.Http.Host

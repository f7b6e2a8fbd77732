import RegistryClient.Decimal.Shortest
import RegistryClient.Json.Basic
import RegistryClient.Text.Digit

/-!
# The text of a JSON value

Two layouts: `Json.compact` has no blanks, and `Json.pretty` puts each item and
each field on a line of its own, indented by two spaces a level.

A string escapes the quotation mark, the reverse solidus and the controls below
U+0020, the common ones by their short escape; everything else stands as it is.
A double-precision number is written with its shortest digits, positionally from
`10 ^ -5` up to `10 ^ 15` and with an exponent otherwise, so that it can always
be told from an integer.
-/

namespace RegistryClient

open Decimal Text

/-- How the text of a double-precision number is laid out. -/
structure NumberLayout where
  /-- The least power of ten of the first digit that is written positionally. -/
  leastPositional : Int
  /-- The greatest such power. -/
  greatestPositional : Int
deriving Repr

namespace Number

/-- Positional from `0.00001` up to below `10 ^ 16`. -/
def layout : NumberLayout := ⟨-5, 15⟩

/-- Digits with the decimal point after the first one and an exponent, which
always has a sign. -/
def exponential (digits : List Char) (power : Int) : List Char :=
  let fraction := match digits with
    | first :: second :: rest => first :: '.' :: second :: rest
    | short => short
  let sign := if power < 0 then '-' else '+'
  fraction ++ 'e' :: sign :: Nat.toDigits 10 power.natAbs

/-- Digits around the decimal point, with at least one digit on either side. -/
def positional (digits : List Char) (power : Int) : List Char :=
  if power < 0 then
    '0' :: '.' :: (List.replicate ((-power).toNat - 1) '0' ++ digits)
  else
    let whole := power.toNat + 1
    if digits.length ≤ whole then
      digits ++ List.replicate (whole - digits.length) '0' ++ ['.', '0']
    else digits.take whole ++ '.' :: digits.drop whole

/-- The text of a magnitude, `power` being the power of ten of its first digit. -/
def magnitudeChars (magnitude : Magnitude) : List Char :=
  let decimal := magnitude.shortest
  let power := decimal.leadingPower
  if layout.leastPositional ≤ power ∧ power ≤ layout.greatestPositional then
    positional decimal.digitChars power
  else exponential decimal.digitChars power

/-- The text of a number. -/
def chars : Number → List Char
  | .integer value =>
    if value < 0 then '-' :: Nat.toDigits 10 value.natAbs else Nat.toDigits 10 value.natAbs
  | .double value =>
    if value.negative then '-' :: magnitudeChars value.magnitude
    else magnitudeChars value.magnitude

/-- The text of a number. -/
def text (value : Number) : String :=
  String.ofList value.chars

end Number

namespace Json

/-- A character inside a string literal. -/
def escapeChar (c : Char) : List Char :=
  if c = '"' then ['\\', '"']
  else if c = '\\' then ['\\', '\\']
  else if c.toNat = 0x08 then ['\\', 'b']
  else if c.toNat = 0x09 then ['\\', 't']
  else if c.toNat = 0x0A then ['\\', 'n']
  else if c.toNat = 0x0C then ['\\', 'f']
  else if c.toNat = 0x0D then ['\\', 'r']
  else if c.toNat < 0x20 then '\\' :: 'u' :: hexPadded 4 c.toNat
  else [c]

/-- A string literal with its quotation marks. -/
def quoted (text : String) : List Char :=
  '"' :: (text.toList.flatMap escapeChar ++ ['"'])

/-- The text of a value that is neither an array nor an object. -/
def scalarChars : Json → List Char
  | .bool true => ['t', 'r', 'u', 'e']
  | .bool false => ['f', 'a', 'l', 's', 'e']
  | .number value => value.chars
  | .string text => quoted text
  | _ => ['n', 'u', 'l', 'l']

/-! ## Without blanks -/

mutual

/-- The text of a value without blanks, on characters. -/
def compactChars : Json → List Char
  | .array items => '[' :: (compactItems items ++ [']'])
  | .object fields => '{' :: (compactFields fields ++ ['}'])
  | scalar => scalarChars scalar

/-- Items with commas between them. -/
def compactItems : List Json → List Char
  | [] => []
  | [item] => compactChars item
  | item :: next :: rest => compactChars item ++ ',' :: compactItems (next :: rest)

/-- Fields with commas between them. -/
def compactFields : List (String × Json) → List Char
  | [] => []
  | [(key, value)] => quoted key ++ ':' :: compactChars value
  | (key, value) :: next :: rest =>
    quoted key ++ ':' :: (compactChars value ++ ',' :: compactFields (next :: rest))

end

/-- The text of a value without blanks. -/
def compact (value : Json) : String :=
  String.ofList value.compactChars

/-! ## On indented lines -/

/-- A line break and the indentation of a level. -/
def newline (level : Nat) : List Char :=
  '\n' :: List.replicate (2 * level) ' '

mutual

/-- The text of a value on indented lines, on characters. -/
def prettyChars (level : Nat) : Json → List Char
  | .array [] => ['[', ']']
  | .array (item :: rest) =>
    '[' :: (prettyItems (level + 1) (item :: rest) ++ newline level ++ [']'])
  | .object [] => ['{', '}']
  | .object (field :: rest) =>
    '{' :: (prettyFields (level + 1) (field :: rest) ++ newline level ++ ['}'])
  | scalar => scalarChars scalar

/-- Items, each on a line of its own. -/
def prettyItems (level : Nat) : List Json → List Char
  | [] => []
  | [item] => newline level ++ prettyChars level item
  | item :: next :: rest =>
    newline level ++ prettyChars level item ++ ',' :: prettyItems level (next :: rest)

/-- Fields, each on a line of its own. -/
def prettyFields (level : Nat) : List (String × Json) → List Char
  | [] => []
  | [(key, value)] => newline level ++ quoted key ++ ':' :: ' ' :: prettyChars level value
  | (key, value) :: next :: rest =>
    newline level ++ quoted key ++ ':' :: ' ' ::
      (prettyChars level value ++ ',' :: prettyFields level (next :: rest))

end

/-- The text of a value on indented lines. -/
def pretty (value : Json) : String :=
  String.ofList (value.prettyChars 0)

end Json

end RegistryClient

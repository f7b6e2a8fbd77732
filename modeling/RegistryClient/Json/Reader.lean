import RegistryClient.Json.Basic
import RegistryClient.Text.Cut
import RegistryClient.Text.Digit

/-!
# Reading JSON text

`Json.parse?` reads exactly one value with nothing but white space around it.
The grammar is strict: no comments, no comma after the last item, no leading
zeros, no control characters inside strings and no escapes of lone surrogates.
Of a repeated key the last value counts.

Arrays and objects may be nested as deep as the caller allows.

A literal without fraction and exponent is an integer when it fits in 64 bits,
signed or unsigned, and is not `-0`; every other literal is a double-precision
number, and one that is too large for that is refused.
-/

namespace RegistryClient.Json

open Decimal Text

/-! ## White space -/

/-- The white space of JSON. -/
def isSpace (c : Char) : Bool :=
  c == ' ' || c == '\n' || c == '\r' || c == '\t'

def skipSpace (chars : List Char) : List Char :=
  chars.dropWhile isSpace

/-! ## Numbers -/

/-- A number literal: its sign, the digits before and after the point, and the
exponent. -/
structure Literal where
  negative : Bool
  whole : List Char
  fraction : Option (List Char)
  exponent : Option Int
deriving Repr

/-- The greatest integer that a literal's digits are collected up to. -/
def greatestInteger : Nat := greatestOfBits 64

/-- Appends digits to an integer as long as it fits in 64 bits; the digits that
do not fit are left over. -/
def absorb (soFar : Nat) : List Char → Nat × List Char
  | [] => (soFar, [])
  | c :: rest =>
    let longer := soFar * 10 + (c.toNat - '0'.toNat)
    if longer ≤ greatestInteger then absorb longer rest else (soFar, c :: rest)

/-- The digits of a literal as an integer that fits in 64 bits and a power of
ten: a digit before the point that does not fit counts as a power, one after the
point is dropped. -/
def Literal.scaled (literal : Literal) : Nat × Int :=
  let (whole, unread) := absorb 0 literal.whole
  let fraction := literal.fraction.getD []
  let (digits, dropped) := absorb whole fraction
  let places : Int := fraction.length - dropped.length
  (digits, literal.exponent.getD 0 + unread.length - places)

/-- The double-precision number of a literal; `none` when it is too large. -/
def Literal.double? (literal : Literal) : Option Double :=
  let (digits, power) := literal.scaled
  (Magnitude.scaledByTen? digits power).map fun magnitude => ⟨literal.negative, magnitude⟩

/-- The integer of a literal that has neither fraction nor exponent, is not
`-0` and fits in 64 bits. -/
def Literal.integer? (literal : Literal) : Option Int :=
  if literal.fraction.isSome || literal.exponent.isSome then none
  else
    let value := Nat.ofDigitChars 10 literal.whole 0
    if literal.negative then
      if value ≠ 0 ∧ value ≤ greatestOfBits 63 + 1 then some (-(value : Int)) else none
    else if value ≤ greatestInteger then some value else none

/-- The number of a literal; `none` when it is too large. -/
def Literal.number? (literal : Literal) : Option Number :=
  match literal.integer? with
  | some value => some (.integer value)
  | none => literal.double?.map .double

/-- The exponent of a literal, when there is one. -/
def readExponent : List Char → Option (Option Int × List Char)
  | [] => some (none, [])
  | c :: rest =>
    if c ≠ 'e' ∧ c ≠ 'E' then some (none, c :: rest)
    else
      let (negative, unsigned) := match rest with
        | '-' :: more => (true, more)
        | '+' :: more => (false, more)
        | more => (false, more)
      let digits := unsigned.takeWhile Char.isDigit
      if digits.isEmpty then none
      else
        let value : Int := Nat.ofDigitChars 10 digits 0
        some (some (if negative then -value else value), unsigned.dropWhile Char.isDigit)

/-- The fraction of a literal, when there is one. -/
def readFraction : List Char → Option (Option (List Char) × List Char)
  | '.' :: rest =>
    let digits := rest.takeWhile Char.isDigit
    if digits.isEmpty then none else some (some digits, rest.dropWhile Char.isDigit)
  | chars => some (none, chars)

/-- A number literal at the start of the text. -/
def readLiteral (chars : List Char) : Option (Literal × List Char) := do
  let (negative, unsigned) := match chars with
    | '-' :: rest => (true, rest)
    | rest => (false, rest)
  let whole := unsigned.takeWhile Char.isDigit
  let afterWhole := unsigned.dropWhile Char.isDigit
  if whole.isEmpty || (whole.head? == some '0' && whole.length > 1) then none
  else
    let (fraction, afterFraction) ← readFraction afterWhole
    let (exponent, rest) ← readExponent afterFraction
    return (⟨negative, whole, fraction, exponent⟩, rest)

/-! ## Strings -/

/-- The character of a short escape. -/
def shortEscape? (c : Char) : Option Char :=
  match c with
  | '"' => some '"'
  | '\\' => some '\\'
  | '/' => some '/'
  | 'b' => some (Char.ofNat 0x08)
  | 'f' => some (Char.ofNat 0x0C)
  | 'n' => some '\n'
  | 'r' => some '\r'
  | 't' => some '\t'
  | _ => none

/-- The first half of a surrogate pair. -/
def isHighSurrogate (unit : Nat) : Bool := 0xD800 ≤ unit && unit ≤ 0xDBFF

/-- The second half of a surrogate pair. -/
def isLowSurrogate (unit : Nat) : Bool := 0xDC00 ≤ unit && unit ≤ 0xDFFF

/-- The characters of a string up to its closing quotation mark.  After the
escape of a high surrogate only the escape of a low one may follow. -/
def readString : (high : Option Nat) → List Char → Option (List Char × List Char)
  | _, [] => none
  | high, '\\' :: 'u' :: first :: second :: third :: fourth :: rest =>
    match numeral? 16 [first, second, third, fourth], high with
    | none, _ => none
    | some unit, some leading =>
      if isLowSurrogate unit then
        let code := 0x10000 + (leading - 0xD800) * 0x400 + (unit - 0xDC00)
        (readString none rest).map fun (text, more) => (Char.ofNat code :: text, more)
      else none
    | some unit, none =>
      if isHighSurrogate unit then readString (some unit) rest
      else if isLowSurrogate unit then none
      else (readString none rest).map fun (text, more) => (Char.ofNat unit :: text, more)
  | some _, _ :: _ => none
  | none, '"' :: rest => some ([], rest)
  | none, ['\\'] => none
  | none, '\\' :: c :: rest =>
    match shortEscape? c with
    | none => none
    | some escaped => (readString none rest).map fun (text, more) => (escaped :: text, more)
  | none, c :: rest =>
    if c.toNat < 0x20 then none
    else (readString none rest).map fun (text, more) => (c :: text, more)

/-! ## Values -/

mutual

/-- A value at the start of the text, nested at most `depth` deep. -/
def readValue : (fuel depth : Nat) → List Char → Option (Json × List Char)
  | 0, _, _ => none
  | fuel + 1, depth, chars =>
    match skipSpace chars with
    | [] => none
    | '"' :: rest =>
      (readString none rest).map fun (text, more) => (.string (String.ofList text), more)
    | '[' :: rest =>
      match depth, skipSpace rest with
      | 0, _ => none
      | _ + 1, ']' :: more => some (.array [], more)
      | depth + 1, _ => (readItems fuel depth rest).map fun (items, more) => (.array items, more)
    | '{' :: rest =>
      match depth, skipSpace rest with
      | 0, _ => none
      | _ + 1, '}' :: more => some (.object [], more)
      | depth + 1, _ =>
        (readFields fuel depth rest).map fun (fields, more) => (.ofFields fields, more)
    | 't' :: rest => (after? ['r', 'u', 'e'] rest).map fun more => (.bool true, more)
    | 'f' :: rest => (after? ['a', 'l', 's', 'e'] rest).map fun more => (.bool false, more)
    | 'n' :: rest => (after? ['u', 'l', 'l'] rest).map fun more => (.null, more)
    | other =>
      match readLiteral other with
      | none => none
      | some (literal, more) => literal.number?.map fun value => (.number value, more)

/-- The items of an array up to its closing bracket. -/
def readItems : (fuel depth : Nat) → List Char → Option (List Json × List Char)
  | 0, _, _ => none
  | fuel + 1, depth, chars =>
    match readValue fuel depth chars with
    | none => none
    | some (item, rest) =>
      match skipSpace rest with
      | ']' :: more => some ([item], more)
      | ',' :: more =>
        (readItems fuel depth more).map fun (items, unread) => (item :: items, unread)
      | _ => none

/-- The fields of an object up to its closing brace, as written. -/
def readFields : (fuel depth : Nat) → List Char → Option (List (String × Json) × List Char)
  | 0, _, _ => none
  | fuel + 1, depth, chars =>
    match skipSpace chars with
    | '"' :: rest =>
      match readString none rest with
      | none => none
      | some (key, afterKey) =>
        match skipSpace afterKey with
        | ':' :: beforeValue =>
          match readValue fuel depth beforeValue with
          | none => none
          | some (value, afterValue) =>
            let field := (String.ofList key, value)
            match skipSpace afterValue with
            | '}' :: more => some ([field], more)
            | ',' :: more =>
              (readFields fuel depth more).map fun (fields, unread) => (field :: fields, unread)
            | _ => none
        | _ => none
    | _ => none

end

/-- The value of a whole text, nested at most `depth` deep. -/
def parseWithin? (depth : Nat) (text : String) : Option Json :=
  let chars := text.toList
  match readValue (2 * chars.length + 2) depth chars with
  | some (value, rest) => if (skipSpace rest).isEmpty then some value else none
  | none => none

/-- How deep arrays and objects of a query document may be nested. -/
def nestingLimit : Nat := 127

/-- The value of a whole text, nested at most as deep as a query document may be. -/
def parse? (text : String) : Option Json :=
  parseWithin? nestingLimit text

end RegistryClient.Json

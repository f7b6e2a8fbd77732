import RegistryClient.Text.Digit

/-!
# Labels written in ASCII

A label of a host with other characters in it can be written in letters, digits and
hyphens of ASCII: first those of its characters that are ASCII, then a hyphen, then
the others as numbers in the order of their code points.  A number tells how far it
is from one character's code point and place to the next one's.

The numbers are written to base 36, lowest digit first, each digit but the last at
least as great as a threshold, which follows from the number before.
-/

namespace RegistryClient.Http.Host.Punycode

/-- The value of a digit: letters first, then the digits. -/
def digitValue? (c : Char) : Option Nat :=
  let code := c.toNat
  if 0x61 ≤ code ∧ code ≤ 0x7A then some (code - 0x61)
  else if 0x30 ≤ code ∧ code ≤ 0x39 then some (code - 0x30 + 26)
  else none

/-- The threshold of the digit at a place, counted in steps of 36 from 36 on. -/
def threshold (bias place : Nat) : Nat :=
  if place ≤ bias then 1 else min 26 (place - bias)

/-- The bias for a number of this size, and what is to be added to it. -/
def biasOf (size added : Nat) : Nat :=
  if h : 455 < size then biasOf (size / 35) (added + 36)
  else added + 36 * size / (size + 38)
termination_by size
decreasing_by omega

/-- The bias after a number, when so many characters are known. -/
def nextBias (number count : Nat) (isFirst : Bool) : Nat :=
  let scaled := if isFirst then number / 700 else number / 2
  biasOf (scaled + scaled / count) 0

/-- What is known while a label is decoded. -/
structure State where
  /-- The characters so far. -/
  chars : List Char
  /-- The code point of the last character. -/
  code : Nat
  /-- Where the next number starts to count. -/
  start : Nat
  bias : Nat
deriving Repr

/-- The state before the first number. -/
def State.initial (ascii : List Char) : State := ⟨ascii, 0x80, 0, 72⟩

/-- The state after a number that leads from the start to `target`. -/
def State.place? (state : State) (target : Nat) : Option State := do
  let count := state.chars.length + 1
  let code := state.code + target / count
  let c ← Text.scalar? code
  let position := target % count
  let bias := nextBias (target - state.start) count (state.start = 0)
  return ⟨state.chars.insertIdx position c, code, position + 1, bias⟩

/-- A number of which some digits are read. -/
structure Unfinished where
  target : Nat
  weight : Nat
  place : Nat

/-- A number of which nothing is read. -/
def State.unread (state : State) : Unfinished := ⟨state.start, 1, 36⟩

/-- The characters that the numbers to come add. -/
def decodeFrom (state : State) (number : Unfinished) : List Char → Option (List Char)
  | [] => if number.place = 36 then some state.chars else none
  | c :: rest =>
    match digitValue? c with
    | none => none
    | some digit =>
      let limit := threshold state.bias number.place
      let target := number.target + digit * number.weight
      if digit < limit then
        match state.place? target with
        | none => none
        | some next => decodeFrom next next.unread rest
      else decodeFrom state ⟨target, number.weight * (36 - limit), number.place + 36⟩ rest

/-- The parts before and after the last hyphen; without one, or when nothing is before
it, there is no first part. -/
def splitAtHyphen (chars : List Char) : List Char × List Char :=
  let ascii := (chars.reverse.dropWhile (· ≠ '-')).drop 1
  if ascii.isEmpty then ([], chars)
  else (ascii.reverse, (chars.reverse.takeWhile (· ≠ '-')).reverse)

/-- The label that is written in small letters, digits and hyphens. -/
def decode? (chars : List Char) : Option (List Char) :=
  let (ascii, numbers) := splitAtHyphen chars
  let state := State.initial ascii
  decodeFrom state state.unread numbers

end RegistryClient.Http.Host.Punycode

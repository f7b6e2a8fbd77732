import RegistryClient.Text.Digit
import RegistryClient.Yaml.Cursor

/-!
# Quoted scalars

A scalar in double quotes has escapes, one in single quotes has none but a quote
written twice.  Either may run over several lines, which are folded, and no
document marker may stand in it.
-/

namespace RegistryClient.Yaml

open Text

/-- The character of an escape with one letter. -/
def letterEscape? (c : Char) : Option Char :=
  match c with
  | '0' => some (Char.ofNat 0x00)
  | 'a' => some (Char.ofNat 0x07)
  | 'b' => some (Char.ofNat 0x08)
  | 't' => some '\t'
  | '\t' => some '\t'
  | 'n' => some '\n'
  | 'v' => some (Char.ofNat 0x0B)
  | 'f' => some (Char.ofNat 0x0C)
  | 'r' => some '\r'
  | 'e' => some (Char.ofNat 0x1B)
  | ' ' => some ' '
  | '"' => some '"'
  | '/' => some '/'
  | '\\' => some '\\'
  | 'N' => some (Char.ofNat 0x85)
  | '_' => some (Char.ofNat 0xA0)
  | 'L' => some (Char.ofNat 0x2028)
  | 'P' => some (Char.ofNat 0x2029)
  | _ => none

/-- The character of an escape with digits. -/
def numericEscape? (digits : List Char) : Option Char :=
  (numeral? 16 digits).bind scalar?

/-- The digits of a numeric escape have this number. -/
def escapeDigits? : Char → Option Nat
  | 'x' => some 2
  | 'u' => some 4
  | 'U' => some 8
  | _ => none

/-- The character of an escape, the letter after the backslash and what follows it,
and how many characters after the letter belong to it. -/
def escape? (letter : Char) (rest : List Char) : Option (Char × Nat) :=
  match escapeDigits? letter with
  | none => (letterEscape? letter).map fun c => (c, 0)
  | some count =>
    if rest.length < count then none
    else (numericEscape? (rest.take count)).map fun c => (c, count)

/-- The rest of a scalar in double quotes: `soFar` has its characters, last one
first, and `between` what separates them from the next.  So many of the characters
to come, `skipped`, belong to an escape that was read. -/
def readDouble (soFar : List Char) (between : Separation) (location : Location) :
    (skipped : Nat) → List Char → Option (String × Cursor)
  | _, [] => none
  | skipped + 1, c :: rest => readDouble soFar between (location.after c) skipped rest
  | 0, '"' :: rest =>
    some (String.ofList (between.chars ++ soFar).reverse, ⟨location.after '"', rest⟩)
  | 0, '\\' :: c :: rest =>
    let start := location.after '\\'
    if isBreak c then
      if (marker? rest).isSome then none
      else readDouble (between.chars ++ soFar) (.joined []) (start.after c) 0 rest
    else
      match escape? c rest with
      | none => none
      | some (meant, count) =>
        readDouble (meant :: (between.chars ++ soFar)) .nothing (start.after c) count rest
  | 0, c :: rest =>
    let next := location.after c
    if isBreak c then
      if (marker? rest).isSome then none else readDouble soFar (between.addBreak c) next 0 rest
    else if isGap c then readDouble soFar (between.addGap c) next 0 rest
    else readDouble (c :: (between.chars ++ soFar)) .nothing next 0 rest

/-- The rest of a scalar in single quotes, in which a quote is written twice. -/
def readSingle (soFar : List Char) (between : Separation) (location : Location) :
    List Char → Option (String × Cursor)
  | [] => none
  | '\'' :: '\'' :: rest =>
    let next := (location.after '\'').after '\''
    readSingle ('\'' :: (between.chars ++ soFar)) .nothing next rest
  | '\'' :: rest =>
    some (String.ofList (between.chars ++ soFar).reverse, ⟨location.after '\'', rest⟩)
  | c :: rest =>
    let next := location.after c
    if isBreak c then
      if (marker? rest).isSome then none else readSingle soFar (between.addBreak c) next rest
    else if isGap c then readSingle soFar (between.addGap c) next rest
    else readSingle (c :: (between.chars ++ soFar)) .nothing next rest

/-- A scalar in quotes of either kind. -/
def readQuoted (cursor : Cursor) : Option (String × Cursor) :=
  match cursor.rest with
  | '"' :: rest => readDouble [] .nothing (cursor.after '"') 0 rest
  | '\'' :: rest => readSingle [] .nothing (cursor.after '\'') rest
  | _ => none

end RegistryClient.Yaml

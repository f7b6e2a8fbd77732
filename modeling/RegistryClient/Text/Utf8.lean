/-!
# Reading bytes as text

Bytes are read as UTF-8.  Each longest ill-formed piece that begins like a
character is replaced by U+FFFD, and so is each byte with which no character can
begin, so that every sequence of bytes has a text.
-/

namespace RegistryClient.Text

/-- What stands for an ill-formed piece. -/
def replacement : Char := '\uFFFD'

/-- A character of which some bytes are read. -/
structure Unfinished where
  /-- The bits so far. -/
  bits : Nat
  /-- How many bytes are missing. -/
  missing : Nat
  /-- The least value of the next byte. -/
  lower : Nat
  /-- The greatest value of the next byte. -/
  upper : Nat
deriving DecidableEq, Repr

/-- A first byte: the characters it makes by itself, and the one it begins.  The
next byte is bounded so that a character has only its shortest form, is no
surrogate and is at most U+10FFFF. -/
def startCharacter (byte : Nat) : List Char × Option Unfinished :=
  if byte < 0x80 then ([Char.ofNat byte], none)
  else if 0xC2 ≤ byte ∧ byte ≤ 0xDF then ([], some ⟨byte - 0xC0, 1, 0x80, 0xBF⟩)
  else if 0xE0 ≤ byte ∧ byte ≤ 0xEF then
    let lower := if byte = 0xE0 then 0xA0 else 0x80
    let upper := if byte = 0xED then 0x9F else 0xBF
    ([], some ⟨byte - 0xE0, 2, lower, upper⟩)
  else if 0xF0 ≤ byte ∧ byte ≤ 0xF4 then
    let lower := if byte = 0xF0 then 0x90 else 0x80
    let upper := if byte = 0xF4 then 0x8F else 0xBF
    ([], some ⟨byte - 0xF0, 3, lower, upper⟩)
  else ([replacement], none)

/-- The characters that the next byte completes, and the one it leaves incomplete. -/
def step (pending : Option Unfinished) (byte : Nat) : List Char × Option Unfinished :=
  match pending with
  | none => startCharacter byte
  | some begun =>
    if begun.lower ≤ byte ∧ byte ≤ begun.upper then
      let bits := begun.bits * 64 + byte % 64
      if begun.missing = 1 then ([Char.ofNat bits], none)
      else ([], some ⟨bits, begun.missing - 1, 0x80, 0xBF⟩)
    else
      let (chars, next) := startCharacter byte
      (replacement :: chars, next)

/-- The characters of bytes after an incomplete one. -/
def decodeFrom (pending : Option Unfinished) : List UInt8 → List Char
  | [] => if pending.isSome then [replacement] else []
  | byte :: rest =>
    let (chars, next) := step pending byte.toNat
    chars ++ decodeFrom next rest

/-- The text of bytes. -/
def decodeBytes (bytes : List UInt8) : String :=
  String.ofList (decodeFrom none bytes)

end RegistryClient.Text

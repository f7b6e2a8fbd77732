import RegistryClient.Text.Digit
import RegistryClient.Text.Utf8
import RegistryClient.Yaml.Cursor

/-!
# Tags

A tag names the kind of a node.  It is written in full between angle brackets, or
as a handle and a suffix; a handle stands for the beginning of a tag.  The handles
`!` and `!!` are known everywhere, and a document may give a meaning to any
handle.  An exclamation mark alone is a tag by itself.

Percent escapes in a tag are bytes of UTF-8.  An escape has the length that its
first byte asks for.
-/

namespace RegistryClient.Yaml

open Text

/-- A tag as it is written. -/
inductive TagName where
  | full (name : String)
  | short (handle suffix : String)
deriving DecidableEq, Repr

/-- The handles that are known without being declared. -/
def knownHandles : List (String × String) :=
  [("!", "!"), ("!!", "tag:yaml.org,2002:")]

/-- The tag that a name stands for; `none` when its handle is not known. -/
def TagName.resolve? (handles : List (String × String)) : TagName → Option String
  | .full name => some name
  | .short handle suffix =>
    (handles.find? fun known => known.1 == handle).map fun known => known.2 ++ suffix

/-! ## Characters -/

/-- A character of a handle, an anchor or a directive's name. -/
def isWordChar (c : Char) : Bool := c.isAlphanum || c == '_' || c == '-'

/-- A character of a tag; the last three only where a tag cannot be followed by them. -/
def isTagChar (isDelimited : Bool) (c : Char) : Bool :=
  isWordChar c ||
    [';', '/', '?', ':', '@', '&', '=', '+', '$', '.', '%', '!', '~', '*', '\'', '(', ')'].contains
      c ||
    (isDelimited && [',', '[', ']'].contains c)

/-- How many bytes a character has that begins with this one. -/
def widthOf? (byte : Nat) : Option Nat :=
  if byte < 0x80 then some 1
  else if byte < 0xC0 then none
  else if byte < 0xE0 then some 2
  else if byte < 0xF0 then some 3
  else if byte < 0xF8 then some 4
  else none

/-- A byte that continues a character. -/
def isContinuation (byte : Nat) : Bool := 0x80 ≤ byte && byte < 0xC0

/-- The bytes of a tag, `missing` of them due to continue an escaped character.  An
escape is a percent sign and two digits. -/
def tagBytes? (missing : Nat) : List Char → Option (List UInt8)
  | [] => if missing = 0 then some [] else none
  | '%' :: high :: low :: rest =>
    match numeral? 16 [high, low] with
    | none => none
    | some byte =>
      if missing = 0 then
        match widthOf? byte with
        | none => none
        | some width => (tagBytes? (width - 1) rest).map (byte.toUInt8 :: ·)
      else if isContinuation byte then (tagBytes? (missing - 1) rest).map (byte.toUInt8 :: ·)
      else none
  | c :: rest =>
    if missing = 0 && c ≠ '%' then (tagBytes? 0 rest).map (c.toNat.toUInt8 :: ·) else none

/-- The characters of a tag or of a part of one, their escapes replaced. -/
def readTagText (isDelimited : Bool) (cursor : Cursor) : Option (String × Cursor) := do
  let isHere := isTagChar isDelimited
  let bytes ← tagBytes? 0 (cursor.rest.takeWhile isHere)
  return (decodeBytes bytes, cursor.skip isHere)

/-! ## Reading -/

/-- What a tag begins with that is not in brackets: an exclamation mark, word
characters, and perhaps another mark, with which it is a handle. -/
def readHandle (cursor : Cursor) : Option ((String × Bool) × Cursor) :=
  match cursor.rest with
  | '!' :: rest =>
    let word := rest.takeWhile isWordChar
    let afterWord := (cursor.advance 1).skip isWordChar
    if afterWord.rest.head? == some '!' then
      some ((String.ofList ('!' :: word ++ ['!']), true), afterWord.advance 1)
    else some ((String.ofList ('!' :: word), false), afterWord)
  | _ => none

/-- A tag in angle brackets, after the first of them. -/
def readFullTag (cursor : Cursor) : Option (TagName × Cursor) := do
  let (name, place) ← readTagText true cursor
  if name ≠ "" && place.rest.head? == some '>' then return (.full name, place.advance 1) else none

/-- A tag of a handle and a suffix, or of the mark alone. -/
def readShortTag (cursor : Cursor) : Option (TagName × Cursor) := do
  let ((handle, isComplete), afterHandle) ← readHandle cursor
  let (suffix, place) ← readTagText false afterHandle
  if isComplete then
    if suffix = "" then none else return (.short handle suffix, place)
  else
    let name := String.ofList (handle.toList.drop 1) ++ suffix
    return (if name = "" then .full "!" else .short "!" name, place)

/-- A tag.  A blank follows it, or between brackets perhaps a comma. -/
def readTag (inFlow : Bool) (cursor : Cursor) : Option (TagName × Cursor) := do
  let (name, place) ←
    if (cursor.advance 1).rest.head? == some '<' then readFullTag (cursor.advance 2)
    else readShortTag cursor
  if endsWord place.rest || (inFlow && place.rest.head? == some ',') then return (name, place)
  else none

/-! ## Directives -/

/-- What a document says about itself before it starts. -/
inductive Directive where
  /-- The version of the format that it is written in. -/
  | version (major minor : Nat)
  /-- The beginning of a tag that a handle stands for. -/
  | handle (handle beginning : String)
deriving DecidableEq, Repr

/-- The greatest count of digits in a number of a version. -/
def versionDigits : Nat := 9

/-- A number of a version. -/
def readVersionNumber (cursor : Cursor) : Option (Nat × Cursor) := do
  let digits := cursor.rest.takeWhile Char.isDigit
  let number ← numeral? 10 digits
  if digits.length ≤ versionDigits then return (number, cursor.advance digits.length) else none

/-- The version after the name of its directive. -/
def readVersion (cursor : Cursor) : Option (Directive × Cursor) := do
  let (major, afterMajor) ← readVersionNumber (cursor.skip isGap)
  if afterMajor.rest.head? == some '.' then
    let (minor, place) ← readVersionNumber (afterMajor.advance 1)
    return (.version major minor, place)
  else none

/-- The handle and its meaning after the name of their directive. -/
def readHandleMeaning (cursor : Cursor) : Option (Directive × Cursor) := do
  let ((handle, isComplete), afterHandle) ← readHandle (cursor.skip isGap)
  if (isComplete || handle == "!") && afterHandle.rest.head?.any isGap then
    let (beginning, place) ← readTagText true (afterHandle.skip isGap)
    if beginning ≠ "" && endsWord place.rest then return (.handle handle beginning, place) else none
  else none

/-- A directive, after the percent sign, and the end of its line. -/
def readDirective (cursor : Cursor) : Option (Directive × Cursor) := do
  let name := String.ofList (cursor.rest.takeWhile isWordChar)
  let afterName := cursor.skip isWordChar
  if endsWord afterName.rest then
    let (directive, place) ←
      if name = "YAML" then readVersion afterName
      else if name = "TAG" then readHandleMeaning afterName
      else none
    return (directive, ← place.lineEnd?)
  else none

end RegistryClient.Yaml

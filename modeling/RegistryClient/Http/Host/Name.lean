import RegistryClient.Http.Host.Direction
import RegistryClient.Http.Host.Form
import RegistryClient.Http.Host.Joiner
import RegistryClient.Http.Host.Numeric
import RegistryClient.Http.Host.Punycode
import RegistryClient.Text.Percent
import RegistryClient.Text.Utf8

/-!
# Names of hosts

A name is a row of labels with full stops between them.  Percent escapes in it are
bytes of UTF-8.  What its characters are read as decides: the name is not empty then,
none of the characters that separate parts of an address is left in it, and its
labels obey the rules for marks, joiners and directions.  A label that begins with
`xn--` is the ASCII form of another label, and that one obeys the rules.

A name that ends in a number has to be an address of 32 bits.
-/

namespace RegistryClient.Http.Host

open Text

/-! ## Characters -/

/-- A character of ASCII that no name has. -/
def isForbidden (c : Char) : Bool :=
  c.toNat ≤ 0x20 || c.toNat == 0x7F ||
    ['"', '#', '%', '/', ':', '<', '>', '?', '@', '[', '\\', ']', '^', '\x60', '\x7b', '|',
      '\x7d'].contains c

/-- A forbidden character is left that makes up no single one with what follows. -/
def hasForbidden : List Char → Bool
  | [] => false
  | c :: rest => (isForbidden c && !rest.head?.any (composes c)) || hasForbidden rest

/-- What the characters of a name are read as. -/
def readName? (chars : List Char) : Option (List Char) := do
  let decoded := (decodeBytes (percentDecode chars)).toList
  let forms ← decoded.mapM readAs?
  let name := forms.flatten
  if name.isEmpty || hasForbidden name then none else return name

/-! ## Labels -/

/-- What the ASCII form of a label begins with. -/
def asciiMark : List Char := "xn--".toList

/-- All characters are ASCII. -/
def isAscii (label : List Char) : Bool := label.all (·.toNat < 0x80)

/-- The label that an ASCII form stands for.  It has other characters too, each of
them in the only form in which it is read. -/
def decodedLabel? (code : List Char) : Option (List Char) := do
  let label ← Punycode.decode? code
  if isAscii code && !isAscii label && label.all isPlain && isComposed label then return label
  else none

/-- The label that is meant by one that may be an ASCII form. -/
def meantLabel? (label : List Char) : Option (List Char) :=
  match after? asciiMark label with
  | some code => decodedLabel? code
  | none => some label

/-- The label obeys the rules for marks and joiners. -/
def isLabel (label : List Char) : Bool :=
  !label.head?.any isMark && joinersFit label

/-- The characters are the name of a host. -/
def isName (chars : List Char) : Bool :=
  match readName? chars with
  | none => false
  | some name =>
    let labels := splitChars '.' name
    match labels.mapM meantLabel? with
    | none => false
    | some meant =>
      meant.all isLabel && keepsDirections meant &&
        (!(lastLabel? labels).any isNumeric || isShortAddress labels)

end RegistryClient.Http.Host

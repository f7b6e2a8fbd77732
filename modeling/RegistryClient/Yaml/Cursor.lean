import RegistryClient.Text.Cut

/-!
# Places in YAML text

A place in a text with its line, its column and its distance from the start of the
line, all counted from zero, and the characters that separate words and lines.
Lines end with a line feed, a line
separator or a paragraph separator; `withPlainBreaks` writes the other line
breaks as line feeds.
-/

namespace RegistryClient.Yaml

open Text

/-! ## Characters -/

/-- A space or a tab. -/
def isGap (c : Char) : Bool := c == ' ' || c == '\t'

/-- A character that ends a line. -/
def isBreak (c : Char) : Bool := c == '\n' || c == '\u2028' || c == '\u2029'

/-- The text is at its end or at the end of a line. -/
def endsLine : List Char → Bool
  | [] => true
  | c :: _ => isBreak c

/-- The text is at its end or at a gap or the end of a line. -/
def endsWord : List Char → Bool
  | [] => true
  | c :: _ => isGap c || isBreak c

/-- The characters that may occur in a text. -/
def isAllowed (c : Char) : Bool :=
  let code := c.toNat
  code == 0x09 || code == 0x0A || code == 0x0D || (0x20 ≤ code && code ≤ 0x7E) ||
    code == 0x85 || (0xA0 ≤ code && code ≤ 0xD7FF) || (0xE000 ≤ code && code ≤ 0xFFFD) ||
    0x10000 ≤ code

/-- The characters with carriage returns, alone or before a line feed, and next-line
characters written as line feeds. -/
def withPlainBreaks : List Char → List Char
  | '\r' :: '\n' :: rest => '\n' :: withPlainBreaks rest
  | '\r' :: rest => '\n' :: withPlainBreaks rest
  | c :: rest => (if c == '\u0085' then '\n' else c) :: withPlainBreaks rest
  | [] => []

/-- What starts or ends a document at the start of a line. -/
inductive Marker where
  | documentStart
  | documentEnd
deriving DecidableEq, Repr

/-- The marker that a line begins with. -/
def marker? (chars : List Char) : Option Marker :=
  match after? "---".toList chars, after? "...".toList chars with
  | some rest, _ => if endsWord rest then some .documentStart else none
  | _, some rest => if endsWord rest then some .documentEnd else none
  | none, none => none

/-! ## Places -/

/-- Where a place is. -/
structure Location where
  line : Nat
  /-- How many characters of its line stand before it. -/
  column : Nat
  /-- How many bytes these have in UTF-8. -/
  offset : Nat
deriving DecidableEq, Repr, Inhabited

namespace Location

/-- The start of a text. -/
def start : Location := ⟨0, 0, 0⟩

/-- Where the next character is. -/
def after (location : Location) (c : Char) : Location :=
  if isBreak c then ⟨location.line + 1, 0, 0⟩
  else ⟨location.line, location.column + 1, location.offset + c.utf8Size⟩

end Location

/-- A place in the text, and what is left of the text there. -/
structure Cursor extends Location where
  rest : List Char
deriving Repr, Inhabited

namespace Cursor

/-- The place so many characters further. -/
def advance (cursor : Cursor) (count : Nat) : Cursor :=
  ⟨(cursor.rest.take count).foldl Location.after cursor.toLocation, cursor.rest.drop count⟩

/-- The place after the characters at this place that are of one kind. -/
def skip (cursor : Cursor) (isSkipped : Char → Bool) : Cursor :=
  cursor.advance (cursor.rest.takeWhile isSkipped).length

/-- The document marker at this place. -/
def marker? (cursor : Cursor) : Option Marker :=
  if cursor.column = 0 then Yaml.marker? cursor.rest else none

/-- The end of the line, when nothing but a comment is left on it. -/
def lineEnd? (cursor : Cursor) : Option Cursor :=
  let afterGap := cursor.skip isGap
  let place := if afterGap.rest.head? == some '#' then afterGap.skip (!isBreak ·) else afterGap
  if endsLine place.rest then some place else none

end Cursor

/-! ## Line breaks inside scalars -/

/-- What separates two pieces of a scalar. -/
inductive Separation where
  /-- Gaps on one line, last character first. -/
  | gap (chars : List Char)
  /-- The end of a line, and the ends of the empty lines after it, last one first. -/
  | lines (first : Char) (more : List Char)
  /-- An escaped line break, which does not count, and the ends of empty lines. -/
  | joined (more : List Char)
deriving Repr

namespace Separation

/-- Nothing separates the pieces. -/
def nothing : Separation := .gap []

/-- There is no separation. -/
def isNothing : Separation → Bool
  | .gap [] => true
  | _ => false

/-- A new line was started. -/
def hasBreak : Separation → Bool
  | .gap _ => false
  | _ => true

/-- A space or tab further; gaps around line breaks do not count. -/
def addGap (c : Char) : Separation → Separation
  | .gap chars => .gap (c :: chars)
  | broken => broken

/-- A line break further. -/
def addBreak (c : Char) : Separation → Separation
  | .gap _ => .lines c []
  | .lines first more => .lines first (c :: more)
  | .joined more => .joined (c :: more)

/-- The characters that the separation is read as, last one first: a single line
feed is read as a space, and of several the first does not count.  Other line
breaks stand for themselves. -/
def chars : Separation → List Char
  | .gap chars => chars
  | .lines '\n' [] => [' ']
  | .lines '\n' more => more
  | .lines first more => more ++ [first]
  | .joined more => more

end Separation

end RegistryClient.Yaml

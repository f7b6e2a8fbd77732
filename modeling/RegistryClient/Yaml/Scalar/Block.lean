import RegistryClient.Text.Digit
import RegistryClient.Yaml.Cursor

/-!
# Block scalars

A block scalar is written on lines of its own below a header: `|` keeps its line
breaks and `>` folds them.  The header may give the indentation and what becomes
of the line breaks at the end; a comment may follow it.

Without a given indentation, the deepest of the empty lines at the start and the
first line with something on it decide.  A line that is indented less ends the
scalar.  Folding spares the line breaks around lines that start with a blank.
-/

namespace RegistryClient.Yaml

open Text

/-! ## Headers -/

/-- What becomes of the line breaks at the end. -/
inductive Chomping where
  /-- None of them counts. -/
  | strip
  /-- The first counts. -/
  | clip
  /-- All of them count. -/
  | keep
deriving DecidableEq, Repr

/-- What stands before the lines of a block scalar. -/
structure BlockHeader where
  /-- Line breaks are folded. -/
  isFolded : Bool
  chomping : Chomping
  /-- How much more the lines are indented than what the scalar belongs to. -/
  indentation : Option Nat
deriving DecidableEq, Repr

/-- The sign for the line breaks at the end. -/
def chomping? : Char → Option Chomping
  | '+' => some .keep
  | '-' => some .strip
  | _ => none

/-- The number of an indentation, which is not zero. -/
def indentation? (c : Char) : Option Nat :=
  (digitValue? 10 c).filter (· ≠ 0)

/-- A header and the start of the line after it. -/
def readBlockHeader (cursor : Cursor) : Option (BlockHeader × Cursor) := do
  let isFolded ← match cursor.rest.head? with
    | some '|' => some false
    | some '>' => some true
    | _ => none
  let first := cursor.advance 1
  let second := cursor.advance 2
  let firstChomping := first.rest.head?.bind chomping?
  let firstIndentation := first.rest.head?.bind indentation?
  let secondChomping := second.rest.head?.bind chomping?
  let secondIndentation := second.rest.head?.bind indentation?
  let (chomping, indentation, count) := match firstChomping, firstIndentation with
    | some _, _ => (firstChomping, secondIndentation, if secondIndentation.isSome then 3 else 2)
    | none, some _ => (secondChomping, firstIndentation, if secondChomping.isSome then 3 else 2)
    | none, none => (none, none, 1)
  let place ← (cursor.advance count).lineEnd?
  return (⟨isFolded, chomping.getD .clip, indentation⟩, place.advance 1)

/-! ## Lines -/

/-- A line with something on it, and the line breaks after it: its own and those
of the empty lines that follow. -/
structure BlockLine where
  text : List Char
  breaks : List Char
deriving DecidableEq, Repr

/-- The line starts with a blank. -/
def BlockLine.startsBlank (line : BlockLine) : Bool := line.text.head?.any isGap

/-- The breaks of the empty lines at a place, the deepest column that is reached
in their indentation, and the place after them; `breaks` and `deepest` are those
so far.  Indentation ends at the given column, and has no tab. -/
def readEmptyLines (indentation : Option Nat) (breaks : List Char) (deepest : Nat)
    (location : Location) : List Char → Option (List Char × Nat × Cursor)
  | [] => some (breaks.reverse, max deepest location.column, ⟨location, []⟩)
  | c :: rest =>
    let isIndentation := indentation.all (location.column < ·)
    let next := location.after c
    if isIndentation && c == ' ' then readEmptyLines indentation breaks deepest next rest
    else if isIndentation && c == '\t' then none
    else if isBreak c then
      readEmptyLines indentation (c :: breaks) (max deepest location.column) next rest
    else some (breaks.reverse, max deepest location.column, ⟨location, c :: rest⟩)

/-- The lines indented to a column, and the place after them.  Each takes at least
one character. -/
def readBlockLines (column : Nat) : (fuel : Nat) → Cursor → Option (List BlockLine × Cursor)
  | 0, cursor => some ([], cursor)
  | fuel + 1, cursor =>
    if cursor.column = column && !cursor.rest.isEmpty then do
      let text := cursor.rest.takeWhile (!isBreak ·)
      let atEnd := cursor.skip (!isBreak ·)
      let next := atEnd.advance 1
      let (breaks, _, further) ←
        readEmptyLines (some column) (atEnd.rest.take 1) 0 next.toLocation next.rest
      let (lines, place) ← readBlockLines column fuel further
      return (⟨text, breaks⟩ :: lines, place)
    else some ([], cursor)

/-! ## Text -/

/-- The line breaks between two lines as they are read: a single folded line feed
is a space, and of several the first does not count. -/
def breaksBetween (isFolded : Bool) (line next : BlockLine) : List Char :=
  match line.breaks with
  | '\n' :: more =>
    if isFolded && !line.startsBlank && !next.startsBlank then
      if more.isEmpty then [' '] else more
    else '\n' :: more
  | breaks => breaks

/-- What counts of the line breaks at the end. -/
def Chomping.chomp : Chomping → List Char → List Char
  | .strip, _ => []
  | .clip, breaks => breaks.take 1
  | .keep, breaks => breaks

/-- The text of lines. -/
def blockText (header : BlockHeader) : List BlockLine → List Char
  | [] => []
  | [line] => line.text ++ header.chomping.chomp line.breaks
  | line :: next :: rest =>
    line.text ++ breaksBetween header.isFolded line next ++ blockText header (next :: rest)

/-- A block scalar and the place of what follows.  What it belongs to is indented
to the column `parent`, if it belongs to something. -/
def readBlock (parent : Option Nat) (cursor : Cursor) : Option (String × Cursor) := do
  let (header, start) ← readBlockHeader cursor
  let given := header.indentation.map (parent.getD 0 + ·)
  let (breaks, deepest, place) ← readEmptyLines given [] 0 start.toLocation start.rest
  let column := given.getD (max deepest (parent.elim 1 (· + 1)))
  let (lines, after) ← readBlockLines column place.rest.length place
  let initial := if lines.isEmpty && header.chomping ≠ .keep then [] else breaks
  return (String.ofList (initial ++ blockText header lines), after)

end RegistryClient.Yaml

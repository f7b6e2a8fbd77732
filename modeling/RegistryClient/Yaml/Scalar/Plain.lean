import RegistryClient.Yaml.Cursor

/-!
# Plain scalars

A plain scalar has no quotes.  It ends before a colon and a blank, before a blank
and a hash, and between brackets also before a comma or a bracket.  Its further
lines are folded; outside brackets they are indented more than what the scalar
belongs to, and a document marker ends it.
-/

namespace RegistryClient.Yaml

/-- The characters that end a plain scalar between brackets. -/
def flowIndicators : List Char := [',', '[', ']', '{', '}']

/-- The characters with which a plain scalar starts only before certain others. -/
def weakIndicators : List Char := ['-', '?', ':']

/-- The characters with which a plain scalar never starts. -/
def strongIndicators : List Char :=
  [',', '[', ']', '{', '}', '#', '&', '*', '!', '|', '>', '\'', '"', '%', '@', '\x60']

/-- A plain scalar may start here. -/
def startsPlain (inFlow : Bool) (chars : List Char) : Bool :=
  match chars with
  | [] => false
  | c :: rest =>
    if c == '-' then !(rest.head?.any isGap)
    else if weakIndicators.contains c then !inFlow && !endsWord rest
    else !endsWord chars && !strongIndicators.contains c

/-- What a plain scalar does at one of its characters. -/
inductive PlainStep where
  /-- The character belongs to the scalar. -/
  | goOn
  /-- The scalar has ended before the character. -/
  | stop
  /-- The character may not stand there. -/
  | refuse
deriving DecidableEq, Repr

/-- What a plain scalar does at a character that is no blank, before `rest`. -/
def plainStep (inFlow : Bool) (c : Char) (rest : List Char) : PlainStep :=
  if c == ':' && inFlow && rest.head?.any (fun next => ('?' :: flowIndicators).contains next) then
    .refuse
  else if c == ':' && endsWord rest then .stop
  else if inFlow && flowIndicators.contains c then .stop
  else .goOn

/-- Nothing of the scalar stands at this place, where a word could start: it is
indented less than `least`, or a comment or a document marker stands here. -/
def endsPlain (inFlow : Bool) (least : Nat) (cursor : Cursor) : Bool :=
  (!inFlow && cursor.column < least) || cursor.marker?.isSome || cursor.rest.head? == some '#'

/-- The rest of a plain scalar whose further lines have at least the column
`least`: `soFar` has its characters, last one first, and `between` what separates
them from the next.  The place is the one of the next token; what separates the
scalar from it comes along. -/
def readPlainFrom (inFlow : Bool) (least : Nat) (soFar : List Char) (between : Separation)
    (location : Location) : List Char → Option (List Char × Separation × Cursor)
  | [] => some (soFar, between, ⟨location, []⟩)
  | c :: rest =>
    let place : Cursor := ⟨location, c :: rest⟩
    let next := location.after c
    if isBreak c then readPlainFrom inFlow least soFar (between.addBreak c) next rest
    else if isGap c then
      if c == '\t' && between.hasBreak && location.column < least then none
      else readPlainFrom inFlow least soFar (between.addGap c) next rest
    else if !between.isNothing && endsPlain inFlow least place then some (soFar, between, place)
    else
      match plainStep inFlow c rest with
      | .refuse => none
      | .stop => some (soFar, between, place)
      | .goOn => readPlainFrom inFlow least (c :: (between.chars ++ soFar)) .nothing next rest

/-- A plain scalar, whether lines ended after it, and the place of the next token. -/
def readPlain (inFlow : Bool) (least : Nat) (cursor : Cursor) :
    Option (String × Bool × Cursor) := do
  let (chars, after, place) ←
    readPlainFrom inFlow least [] .nothing cursor.toLocation cursor.rest
  return (String.ofList chars.reverse, after.hasBreak, place)

end RegistryClient.Yaml

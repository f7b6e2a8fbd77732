import RegistryClient.Yaml.Scalar.Block
import RegistryClient.Yaml.Scalar.Plain
import RegistryClient.Yaml.Scalar.Quoted
import RegistryClient.Yaml.Token

/-!
# The tokens of a text

`tokens?` finds the tokens of a text in order, those included that its layout
implies.

Outside brackets, a collection starts with its first item or key and ends before
the first token that is indented less.  Any node may turn out to be a key when a
colon follows: the colon is on the line on which the node begins, at most
`longestKey` bytes of UTF-8 further.  What stands in the column of a mapping has to be
a key.

An anchor is numbered by how many names are known before it.  A name that is given
to a second node takes the number it gets there, and an alias has the number that
its name has at that place.
-/

namespace RegistryClient.Yaml

/-- How far a colon may be from the start of its key. -/
def longestKey : Nat := 1024

/-- A node that is a key if a colon follows. -/
structure PossibleKey where
  /-- It has to be a key. -/
  isRequired : Bool
  /-- How many tokens stand before it. -/
  before : Nat
  /-- Where it begins. -/
  location : Location
deriving DecidableEq, Repr

/-- What is known at a place in the text. -/
structure Layout where
  place : Cursor
  /-- The tokens so far, last one first. -/
  tokens : List Token
  /-- The columns of the open collections without brackets, innermost first. -/
  columns : List Nat
  /-- The last node at this level of brackets, if a colon makes it a key. -/
  key : Option PossibleKey
  /-- The same for the levels of brackets around this one, innermost first. -/
  outerKeys : List (Option PossibleKey)
  /-- A node that starts here may be a key. -/
  allowsKey : Bool
  /-- The names of anchors with their numbers, each name once. -/
  names : List (String × Nat)

namespace Layout

/-- The start of a text. -/
def start (chars : List Char) : Layout :=
  ⟨⟨.start, chars⟩, [], [], none, [], true, []⟩

/-- The place is between brackets. -/
def inFlow (layout : Layout) : Bool := !layout.outerKeys.isEmpty

/-- The least column of what belongs to the innermost open collection. -/
def leastColumn (layout : Layout) : Nat := layout.columns.head?.elim 0 (· + 1)

/-- A token further. -/
def emit (layout : Layout) (token : Token) : Layout :=
  { layout with tokens := token :: layout.tokens }

/-- A token written with so many characters further, after which a key may stand
or not. -/
def take (layout : Layout) (count : Nat) (token : Token) (allowsKey : Bool) : Layout :=
  { layout.emit token with place := layout.place.advance count, allowsKey := allowsKey }

/-! ## Keys -/

/-- The key can no longer have its colon at this place. -/
def isStale (place : Cursor) (key : PossibleKey) : Bool :=
  key.location.line < place.line || key.location.offset + longestKey < place.offset

/-- There is no node that has to be a key. -/
def isFree (key : Option PossibleKey) : Bool := !key.any (·.isRequired)

/-- The node, if it can still be a key at this place; `none` when it cannot and has
to be one. -/
def refresh (place : Cursor) (key : Option PossibleKey) : Option (Option PossibleKey) :=
  if key.any (isStale place) then if isFree key then some none else none else some key

/-- The nodes that can still be keys. -/
def refreshKeys (layout : Layout) : Option Layout := do
  let key ← refresh layout.place layout.key
  let outerKeys ← layout.outerKeys.mapM (refresh layout.place)
  return { layout with key := key, outerKeys := outerKeys }

/-- The last node at this level is no key; `none` when it has to be one. -/
def dismissKey (layout : Layout) : Option Layout :=
  if isFree layout.key then some { layout with key := none } else none

/-- The node that starts here may be a key, if one is allowed here. -/
def noteKey (layout : Layout) : Option Layout :=
  if layout.allowsKey then
    layout.dismissKey.map fun next =>
      let isRequired := !layout.inFlow && layout.columns.head? == some layout.place.column
      { next with key := some ⟨isRequired, layout.tokens.length, layout.place.toLocation⟩ }
  else some layout

/-- A token after so many others. -/
def insert (layout : Layout) (before : Nat) (token : Token) : Layout :=
  { layout with tokens := layout.tokens.insertIdx (layout.tokens.length - before) token }

/-! ## Collections without brackets -/

/-- A collection starts in a column after so many tokens, unless one is open there. -/
def openBlock (layout : Layout) (column before : Nat) (token : Token) : Layout :=
  if !layout.inFlow && layout.columns.head?.all (· < column) then
    { layout.insert before token with columns := column :: layout.columns }
  else layout

/-- The collections end whose columns are no longer reached. -/
def closeBlocks (layout : Layout) (isReached : Nat → Bool) : Layout :=
  if layout.inFlow then layout
  else
    let closed := layout.columns.takeWhile (!isReached ·)
    { layout with
      tokens := closed.map (fun _ => .blockEnd) ++ layout.tokens
      columns := layout.columns.dropWhile (!isReached ·) }

/-- A mark of a collection without brackets, which must be allowed here. -/
def takeMark (layout : Layout) (collection mark : Token) (allowsKey : Bool) : Option Layout :=
  if layout.inFlow then (layout.dismissKey).map fun next => next.take 1 mark allowsKey
  else if layout.allowsKey then
    let opened := layout.openBlock layout.place.column layout.tokens.length collection
    opened.dismissKey.map fun next => next.take 1 mark allowsKey
  else none

/-! ## Single tokens -/

/-- A directive or marker, before which all collections end. -/
def takeOutside (layout : Layout) (token : Token) (place : Cursor) : Option Layout :=
  ((layout.closeBlocks fun _ => false).dismissKey).map fun next =>
    { next.emit token with place := place, allowsKey := false }

/-- The rest of the text has no token. -/
def finish (layout : Layout) : Option Layout :=
  (layout.closeBlocks fun _ => false).dismissKey

/-- An opening bracket. -/
def takeOpening (layout : Layout) (token : Token) : Option Layout :=
  layout.noteKey.map fun next =>
    { next.take 1 token true with key := none, outerKeys := next.key :: next.outerKeys }

/-- A closing bracket. -/
def takeClosing (layout : Layout) (token : Token) : Option Layout :=
  layout.dismissKey.map fun next =>
    let closed := next.take 1 token false
    match next.outerKeys with
    | [] => closed
    | key :: outerKeys => { closed with key := key, outerKeys := outerKeys }

/-- The colon before a value, which makes the node before it a key if it can be one. -/
def takeColon (layout : Layout) : Option Layout :=
  match layout.key with
  | some key =>
    let marked := layout.insert key.before .key
    let opened := marked.openBlock key.location.column key.before .mappingStart
    some { opened.take 1 .value false with key := none }
  | none =>
    if layout.inFlow then some (layout.take 1 .value false)
    else if layout.allowsKey then
      let opened := layout.openBlock layout.place.column layout.tokens.length .mappingStart
      some (opened.take 1 .value true)
    else none

/-- A scalar or a property of a node, which was read up to a place. -/
def takeNode (layout : Layout) (token : Token) (place : Cursor) : Option Layout :=
  layout.noteKey.map fun next =>
    { next.emit token with place := place, allowsKey := false }

/-- A plain scalar. -/
def takePlain (layout : Layout) : Option Layout := do
  let (text, hasBreak, place) ← readPlain layout.inFlow layout.leastColumn layout.place
  let next ← layout.takeNode (.scalar .plain text) place
  return { next with allowsKey := hasBreak }

/-- A scalar in quotes. -/
def takeQuoted (layout : Layout) : Option Layout := do
  let (text, place) ← readQuoted layout.place
  layout.takeNode (.scalar .delimited text) place

/-- A block scalar. -/
def takeBlock (layout : Layout) : Option Layout := do
  let next ← layout.dismissKey
  let style := if layout.place.rest.head? == some '|' then Style.literal else Style.delimited
  let (text, place) ← readBlock layout.columns.head? layout.place
  return { next.emit (.scalar style text) with place := place, allowsKey := true }

/-- The characters of which one follows an anchor or an alias that no blank follows. -/
def afterNameChars : List Char := ['?', ':', ',', ']', '}', '%', '@', '\x60']

/-- The name of an anchor or an alias after its sign. -/
def readAnchorName (cursor : Cursor) : Option (String × Cursor) :=
  let name := cursor.rest.takeWhile isWordChar
  let place := cursor.skip isWordChar
  if !name.isEmpty && (endsWord place.rest || place.rest.head?.any afterNameChars.contains) then
    some (String.ofList name, place)
  else none

/-- The number of a name. -/
def number? (layout : Layout) (name : String) : Option Nat :=
  (layout.names.find? fun known => known.1 == name).map Prod.snd

/-- An anchor, whose name gets a new number. -/
def takeAnchor (layout : Layout) : Option Layout := do
  let (name, place) ← readAnchorName (layout.place.advance 1)
  let number := layout.names.length
  let next ← layout.takeNode (.anchor number) place
  let others := layout.names.filter fun known => known.1 ≠ name
  return { next with names := (name, number) :: others }

/-- An alias, whose name must be known. -/
def takeAlias (layout : Layout) : Option Layout := do
  let (name, place) ← readAnchorName (layout.place.advance 1)
  let number ← layout.number? name
  layout.takeNode (.alias number) place

/-- A tag. -/
def takeTag (layout : Layout) : Option Layout := do
  let (name, place) ← readTag layout.inFlow layout.place
  layout.takeNode (.tag name) place

/-! ## The text -/

/-- The place of the next token after gaps, comments and line breaks, and whether a
key may stand there.  A line break allows one outside brackets; where one may
stand there, a tab is no gap.  A byte order mark at the start of a line is skipped. -/
def nextPlace (inFlow allowsKey inComment : Bool) (location : Location) :
    List Char → Bool × Cursor
  | [] => (allowsKey, ⟨location, []⟩)
  | c :: rest =>
    let next := location.after c
    let isSkipped := c == ' ' || (c == '\t' && (inFlow || !allowsKey)) ||
      (c == '\uFEFF' && location.column == 0)
    if isBreak c then nextPlace inFlow (allowsKey || !inFlow) false next rest
    else if inComment || c == '#' then nextPlace inFlow allowsKey true next rest
    else if isSkipped then nextPlace inFlow allowsKey false next rest
    else (allowsKey, ⟨location, c :: rest⟩)

/-- The place of the next token, with what it ends. -/
def toToken (layout : Layout) : Option Layout := do
  let (allowsKey, place) :=
    nextPlace layout.inFlow layout.allowsKey false layout.place.toLocation layout.place.rest
  let next ← { layout with place := place, allowsKey := allowsKey }.refreshKeys
  return next.closeBlocks (· ≤ place.column)

/-- The sign stands by itself: before a blank, or between brackets anywhere. -/
def isAlone (layout : Layout) (rest : List Char) : Bool := layout.inFlow || endsWord rest

/-- The token that starts here with a character, before `rest`. -/
def takeSign (layout : Layout) (c : Char) (rest : List Char) : Option Layout :=
  match c with
  | '[' => layout.takeOpening .openBracket
  | '{' => layout.takeOpening .openBrace
  | ']' => layout.takeClosing .closeBracket
  | '}' => layout.takeClosing .closeBrace
  | ',' => layout.dismissKey.map fun next => next.take 1 .comma true
  | '*' => layout.takeAlias
  | '&' => layout.takeAnchor
  | '!' => layout.takeTag
  | '\'' => layout.takeQuoted
  | '"' => layout.takeQuoted
  | _ =>
    if c == '-' && endsWord rest then layout.takeMark .sequenceStart .item true
    else if c == '?' && layout.isAlone rest then
      layout.takeMark .mappingStart .key (!layout.inFlow)
    else if c == ':' && layout.isAlone rest then layout.takeColon
    else if (c == '|' || c == '>') && !layout.inFlow then layout.takeBlock
    else if startsPlain layout.inFlow (c :: rest) then layout.takePlain
    else none

/-- The token at a place where one starts. -/
def takeToken (layout : Layout) (c : Char) (rest : List Char) : Option Layout :=
  match layout.place.marker? with
  | some marker => layout.takeOutside (.marker marker) (layout.place.advance 3)
  | none =>
    if layout.place.column = 0 && c == '%' then do
      let (directive, place) ← readDirective (layout.place.advance 1)
      layout.takeOutside (.directive directive) place
    else layout.takeSign c rest

/-- The tokens from a place on.  Each is written with at least one character. -/
def run : (fuel : Nat) → Layout → Option Layout
  | 0, _ => none
  | fuel + 1, layout => do
    let next ← layout.toToken
    match next.place.rest with
    | [] => next.finish
    | c :: rest => run fuel (← next.takeToken c rest)

end Layout

/-- The tokens of a text; `none` when it has none. -/
def tokens? (text : String) : Option (List Token) :=
  let chars := text.toList
  if chars.all isAllowed then
    ((Layout.start (withPlainBreaks chars)).run (chars.length + 1)).map (·.tokens.reverse)
  else none

end RegistryClient.Yaml

import RegistryClient.Yaml.Layout

/-!
# YAML documents

`Document.parse?` reads the one document of a text from its tokens.

A node is an alias, or content with perhaps an anchor and a tag before it; content
may be missing after these, and then is an empty plain scalar.  So may a key, a
value and an item be missing altogether.  A sequence may stand in the column of
the key it belongs to.

In a sequence in brackets, an item with a question mark or a colon is a mapping of
one entry.  Where nothing follows the question mark, what does follow it is not
read as part of that entry.
-/

namespace RegistryClient.Yaml

/-! ## Properties -/

/-- The properties before the content of a node. -/
def readProperties (handles : List (String × String)) (tokens : List Token) :
    Option (Properties × List Token) :=
  match tokens with
  | .anchor number :: .tag name :: rest =>
    (name.resolve? handles).map fun tag => (⟨some number, some tag⟩, rest)
  | .tag name :: .anchor number :: rest =>
    (name.resolve? handles).map fun tag => (⟨some number, some tag⟩, rest)
  | .anchor number :: rest => some (⟨some number, none⟩, rest)
  | .tag name :: rest => (name.resolve? handles).map fun tag => (⟨none, some tag⟩, rest)
  | rest => some (.none, rest)

/-- The properties of a scalar, on which the tag that is a mark alone does not count. -/
def Properties.ofScalar (properties : Properties) : Properties :=
  ⟨properties.anchor, properties.tag.filter (· ≠ "!")⟩

/-! ## Nodes -/

/-- A node that has no content, and so has properties. -/
def missing? (properties : Properties) (tokens : List Token) : Option (Node × List Token) :=
  if properties.isNone then none else some (.scalar properties .plain "", tokens)

/-- The token ends an item outside brackets that has nothing in it. -/
def endsItem : Option Token → Bool
  | some .item => true
  | some .blockEnd => true
  | _ => false

/-- The token ends a key or a value outside brackets that has nothing in it. -/
def endsField : Option Token → Bool
  | some .key => true
  | some .value => true
  | some .blockEnd => true
  | _ => false

/-- The token ends an item in brackets that has nothing in it. -/
def endsFlowItem : Option Token → Bool
  | some .comma => true
  | some .closeBracket => true
  | _ => false

/-- The token ends a value in braces that has nothing in it. -/
def endsFlowField : Option Token → Bool
  | some .comma => true
  | some .closeBrace => true
  | _ => false

/-- The tokens after the comma that separates all but the first piece from the one
before it. -/
def afterComma? (isFirst : Bool) (tokens : List Token) : Option (List Token) :=
  if isFirst then some tokens
  else
    match tokens with
    | .comma :: rest => some rest
    | _ => none

/-- Where a node stands. -/
inductive Position where
  /-- Between brackets. -/
  | inFlow
  /-- Outside brackets. -/
  | inBlock
  /-- As a key or a value outside brackets, where items may follow in the same column. -/
  | inField
deriving DecidableEq, Repr

mutual

/-- A node. -/
def readNode (handles : List (String × String)) (position : Position) :
    (fuel : Nat) → List Token → Option (Node × List Token)
  | 0, _ => none
  | _ + 1, .alias number :: rest => some (.alias number, rest)
  | fuel + 1, tokens => do
    let (properties, content) ← readProperties handles tokens
    match content with
    | .scalar style text :: rest => return (.scalar properties.ofScalar style text, rest)
    | .openBracket :: rest =>
      let (items, more) ← readFlowItems handles true fuel rest
      return (.sequence properties items, more)
    | .openBrace :: rest =>
      let (entries, more) ← readFlowEntries handles true fuel rest
      return (.mapping properties entries, more)
    | _ => readBlockContent handles position properties fuel content

/-- The content of a node that has no brackets and is no scalar. -/
def readBlockContent (handles : List (String × String)) (position : Position)
    (properties : Properties) : (fuel : Nat) → List Token → Option (Node × List Token)
  | 0, _ => none
  | fuel + 1, content =>
    match position, content with
    | .inField, .item :: _ => do
      let (items, more) ← readAlignedItems handles fuel content
      return (.sequence properties items, more)
    | .inFlow, _ => missing? properties content
    | _, .sequenceStart :: rest => do
      let (items, more) ← readItems handles fuel rest
      return (.sequence properties items, more)
    | _, .mappingStart :: rest => do
      let (entries, more) ← readEntries handles fuel rest
      return (.mapping properties entries, more)
    | _, _ => missing? properties content

/-- The items of a sequence and its end. -/
def readItems (handles : List (String × String)) :
    (fuel : Nat) → List Token → Option (List Node × List Token)
  | 0, _ => none
  | fuel + 1, tokens =>
    match tokens with
    | .blockEnd :: rest => some ([], rest)
    | .item :: rest => do
      let (item, afterItem) ←
        if endsItem rest.head? then some (.empty, rest)
        else readNode handles .inBlock fuel rest
      let (items, more) ← readItems handles fuel afterItem
      return (item :: items, more)
    | _ => none

/-- The items of a sequence in the column of its key. -/
def readAlignedItems (handles : List (String × String)) :
    (fuel : Nat) → List Token → Option (List Node × List Token)
  | 0, _ => none
  | fuel + 1, tokens =>
    match tokens with
    | .item :: rest => do
      let (item, afterItem) ←
        if endsItem rest.head? || endsField rest.head? then some (.empty, rest)
        else readNode handles .inBlock fuel rest
      let (items, more) ← readAlignedItems handles fuel afterItem
      return (item :: items, more)
    | _ => some ([], tokens)

/-- The entries of a mapping and its end. -/
def readEntries (handles : List (String × String)) :
    (fuel : Nat) → List Token → Option (List (Node × Node) × List Token)
  | 0, _ => none
  | fuel + 1, tokens =>
    match tokens with
    | .blockEnd :: rest => some ([], rest)
    | .key :: rest => do
      let (key, afterKey) ←
        if endsField rest.head? then some (.empty, rest)
        else readNode handles .inField fuel rest
      let (value, afterValue) ← readValue handles .inField endsField fuel afterKey
      let (entries, more) ← readEntries handles fuel afterValue
      return ((key, value) :: entries, more)
    | _ => none

/-- The value after a key, which may be missing. -/
def readValue (handles : List (String × String)) (position : Position)
    (endsValue : Option Token → Bool) : (fuel : Nat) → List Token → Option (Node × List Token)
  | 0, _ => none
  | fuel + 1, tokens =>
    match tokens with
    | .value :: rest =>
      if endsValue rest.head? then some (.empty, rest) else readNode handles position fuel rest
    | _ => some (.empty, tokens)

/-- The items of a sequence in brackets, up to its closing bracket. -/
def readFlowItems (handles : List (String × String)) (isFirst : Bool) :
    (fuel : Nat) → List Token → Option (List Node × List Token)
  | 0, _ => none
  | _ + 1, .closeBracket :: rest => some ([], rest)
  | fuel + 1, tokens => do
    match ← afterComma? isFirst tokens with
    | .closeBracket :: rest => return ([], rest)
    | .key :: rest =>
      let (key, afterKey) ←
        if rest.head? == some .value || endsFlowItem rest.head? then some (.empty, rest.drop 1)
        else readNode handles .inFlow fuel rest
      let (value, afterValue) ← readValue handles .inFlow endsFlowItem fuel afterKey
      let (items, more) ← readFlowItems handles false fuel afterValue
      return (.mapping .none [(key, value)] :: items, more)
    | rest =>
      let (item, afterItem) ← readNode handles .inFlow fuel rest
      let (items, more) ← readFlowItems handles false fuel afterItem
      return (item :: items, more)

/-- The entries of a mapping in braces, up to its closing brace. -/
def readFlowEntries (handles : List (String × String)) (isFirst : Bool) :
    (fuel : Nat) → List Token → Option (List (Node × Node) × List Token)
  | 0, _ => none
  | _ + 1, .closeBrace :: rest => some ([], rest)
  | fuel + 1, tokens => do
    match ← afterComma? isFirst tokens with
    | .closeBrace :: rest => return ([], rest)
    | .key :: rest =>
      let (key, afterKey) ←
        if rest.head? == some .value || endsFlowField rest.head? then some (.empty, rest)
        else readNode handles .inFlow fuel rest
      let (value, afterValue) ← readValue handles .inFlow endsFlowField fuel afterKey
      let (entries, more) ← readFlowEntries handles false fuel afterValue
      return ((key, value) :: entries, more)
    | rest =>
      let (key, afterKey) ← readNode handles .inFlow fuel rest
      let (entries, more) ← readFlowEntries handles false fuel afterKey
      return ((key, .empty) :: entries, more)

end

/-! ## Documents -/

/-- A document: its root, and the nodes that aliases stand for. -/
structure Document where
  root : Node
  anchored : List (Nat × Node)
deriving Repr, Inhabited

namespace Document

/-- The document of a root. -/
def ofRoot (root : Node) : Document := ⟨root, root.anchored⟩

/-- What a node stands for: of an alias, the last node with its number. -/
def resolve (document : Document) : Node → Node
  | .alias number =>
    (document.anchored.reverse.find? fun entry => entry.1 = number).elim (.alias number) Prod.snd
  | node => node

/-- The version of the format is one that is known. -/
def isKnownVersion (major minor : Nat) : Bool :=
  major = 1 && (minor = 1 || minor = 2)

/-- The handles that the directives before a document declare, and the tokens after
them.  There is at most one version, and each handle is declared at most once. -/
def readDirectives (hasVersion : Bool) (handles : List (String × String)) :
    List Token → Option (List (String × String) × List Token)
  | .directive (.version major minor) :: rest =>
    if hasVersion || !isKnownVersion major minor then none else readDirectives true handles rest
  | .directive (.handle handle beginning) :: rest =>
    if handles.any fun known => known.1 == handle then none
    else readDirectives hasVersion ((handle, beginning) :: handles) rest
  | rest => some (handles, rest)

/-- The token ends a document that has nothing in it. -/
def endsEmpty : Option Token → Bool
  | none => true
  | some (.directive _) => true
  | some (.marker _) => true
  | _ => false

/-- The root after a document's start marker. -/
def rootAfterMarker? (handles : List (String × String)) (fuel : Nat) (tokens : List Token) :
    Option (Node × List Token) :=
  if endsEmpty tokens.head? then some (.empty, tokens) else readNode handles .inBlock fuel tokens

/-- The root of a document and the tokens after it.  A document with directives has
a start marker. -/
def root? (fuel : Nat) (tokens : List Token) : Option (Node × List Token) :=
  match tokens with
  | .directive _ :: _ => marked
  | .marker .documentStart :: _ => marked
  | _ => readNode knownHandles .inBlock fuel tokens
where
  /-- The same after a start marker. -/
  marked : Option (Node × List Token) := do
    let (handles, afterDirectives) ← readDirectives false [] tokens
    match afterDirectives with
    | .marker .documentStart :: rest => rootAfterMarker? (handles ++ knownHandles) fuel rest
    | _ => none

/-- The document that tokens make up; without any tokens it is empty.  Only end
markers follow it. -/
def ofTokens? (tokens : List Token) : Option Document := do
  if tokens.isEmpty then return ofRoot .empty
  else
    let (root, rest) ← root? (4 * tokens.length + 4) tokens
    if rest.all (· = .marker .documentEnd) then return ofRoot root else none

/-- The one document of a text. -/
def parse? (text : String) : Option Document := do
  let tokens ← tokens? text
  ofTokens? tokens

end Document

end RegistryClient.Yaml

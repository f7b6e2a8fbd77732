import RegistryClient.Identifier
import RegistryClient.Query.Combine
import RegistryClient.Query.Document

/-!
# Compiling query trees

`Node.compile` writes a query tree as an expression of the query language.  A
predicate that concerns several fields, words or identifiers becomes the `OR` of
one leaf for each; connectives and negation carry over as they are.

A predicate without meaning is refused: a search for no words, a blank date or
length, something that is not an identifier, an exact match of several
identifiers, or a question for the presence of an element with several fields.
Of several such predicates the leftmost is reported.
-/

namespace RegistryClient.Query

/-- The path of a record's identifier. -/
def idPath : String := Branch.base.path "ID"

/-- The path of a record's release date. -/
def releaseDatePath : String := Branch.base.path "ReleaseDate"

/-- The path of a record's approximate length. -/
def lengthPath : String := Branch.base.path "ApproximateLength"

/-- The blocks one of which a record derived from another one has. -/
def derivationBlocks : List String :=
  ["SeasonInfo", "ClipInfo", "ManifestationInfo", "EpisodeInfo", "EditInfo"]

/-- The test that compares a field with a value. -/
def Bound.test (bound : Bound) (value : String) : Test :=
  match bound with
  | .exactly => .loose value
  | .atMost => .atMost value
  | .atLeast => .atLeast value

/-- The leaves of a search for words: word by word at each path. -/
def searchLeaves (paths : List String) (mode : TextMode) (words : List String) : List String :=
  match mode with
  | .words => paths.flatMap fun path => words.map fun word => leaf path (.loose word)
  | .contains => paths.map fun path => leaf path (.loose (Text.joinWith " " words))
  | .exact => paths.map fun path => leaf path (.exact (Text.joinWith " " words))

/-- The term of a search for a text. -/
def compileSearch (element : Element) (mode : TextMode) (text : String) :
    Except QueryFault String :=
  let words := Text.words text
  if words.isEmpty then .error (.blankSearch element.key)
  else join .or (searchLeaves element.paths mode words)

/-- Refuses a text that is not an identifier. -/
def requireIdentifier (id : String) : Except QueryFault Unit :=
  if Identifier.isValid id then .ok () else .error (.invalidIdentifier id)

/-- Refuses the first text of a list that is not an identifier. -/
def requireIdentifiers : List String → Except QueryFault Unit
  | [] => .ok ()
  | id :: rest => do
    requireIdentifier id
    requireIdentifiers rest

/-- The term for records with these identifiers. -/
def compileNamed (mode : IdMode) (ids : List String) : Except QueryFault String := do
  if ids.isEmpty then .error .noIdentifiers
  requireIdentifiers ids
  match mode with
  | .words => join .or (ids.map fun id => leaf idPath (.loose id))
  | .exact =>
    match ids with
    | [id] => return leaf idPath (.exact id)
    | _ => .error (.severalIdentifiers ids)

/-- The leaf that compares a field with a value, once the value is trimmed. -/
def compileBound (part path : String) (bound : Bound) (value : String) :
    Except QueryFault String :=
  let trimmed := Text.trim value
  if trimmed = "" then .error (.blankValue part) else .ok (leaf path (bound.test trimmed))

/-- The leaf that asks for the presence of a field. -/
def compileHasField : Field → Except QueryFault String
  | .date => .ok (leaf releaseDatePath .present)
  | .length => .ok (leaf lengthPath .present)
  | .element element =>
    match element.singlePath? with
    | some path => .ok (leaf path .present)
    | none => .error (.severalFields element.key)

/-- The term for records that are derived from some other one. -/
def compileDerived : Except QueryFault String :=
  join .or (derivationBlocks.map fun block => leaf (Branch.extra.path block) .present)

/-- The term for records that are derived from the one named. -/
def compileParent (id : String) : Except QueryFault String := do
  requireIdentifier id
  join .or (derivationBlocks.map fun block =>
    leaf (Branch.extra.path (block ++ "/Parent")) (.loose id))

namespace Node

mutual

/-- The expression of a query tree. -/
def compile : Node → Except QueryFault String
  | .join connective operands => do
    let terms ← compileAll operands
    Query.join connective terms
  | .not operand => do
    let term ← compile operand
    negate term
  | .search element mode text => compileSearch element mode text
  | .named mode ids => compileNamed mode ids
  | .date bound value => compileBound "date" releaseDatePath bound value
  | .length bound value => compileBound "length" lengthPath bound value
  | .hasField field => compileHasField field
  | .isRoot expected => do
    let derived ← compileDerived
    if expected then negate derived else return derived
  | .parent id => compileParent id

/-- The expressions of query trees in order, up to the first that is refused. -/
def compileAll : List Node → Except QueryFault (List String)
  | [] => .ok []
  | node :: rest => do
    let term ← compile node
    let terms ← compileAll rest
    return term :: terms

end

end Node

/-- The expression of a query document. -/
def compileJson (document : Json) : Except QueryFault String := do
  let node ← Node.ofJson document
  node.compile

end RegistryClient.Query

namespace RegistryClient

/-- A query as a caller gives it. -/
inductive Query where
  | expression (text : String)
  | structured (node : Query.Node)
deriving BEq, Repr

/-- The expression to send: a ready-made one trimmed, a query tree compiled. -/
def Query.toExpression : Query → Except QueryFault String
  | .expression text =>
    let trimmed := Text.trim text
    if trimmed = "" then .error .blankExpression else .ok trimmed
  | .structured node => node.compile

end RegistryClient

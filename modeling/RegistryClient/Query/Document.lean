import RegistryClient.Query.Fault
import RegistryClient.Query.Node

/-!
# Query documents

A query document is the JSON form of a query tree.  Every node is an object with
exactly one key, which names a connective, a predicate or an element.  Reading is
exhaustive: an unknown key, a second key, an argument of the wrong kind or a
connective without operands is refused, and of several mistakes the first one
in document order is reported.
-/

namespace RegistryClient.Query

/-- The connective with a key. -/
def Connective.ofKey? : String → Option Connective
  | "and" => some .and
  | "or" => some .or
  | _ => none

/-- The match mode of a search with a key. -/
def TextMode.ofKey? : String → Option TextMode
  | "words" => some .words
  | "contains" => some .contains
  | "exact" => some .exact
  | _ => none

/-- The match mode of identifiers with a key. -/
def IdMode.ofKey? : String → Option IdMode
  | "words" => some .words
  | "exact" => some .exact
  | _ => none

/-- The field with a name in a query document. -/
def Field.ofKey? : String → Option Field
  | "date" => some .date
  | "length" => some .length
  | name => (Element.ofKey? name).map .element

namespace Document

/-- The only field of an object. -/
def soleField (part : String) : Json → Except QueryFault (String × Json)
  | .object [field] => .ok field
  | .object fields => .error (.notOneKey part (.object fields))
  | other => .error (.notAnObject part other)

/-- The text of a string. -/
def textArgument (key : String) : Json → Except QueryFault String
  | .string text => .ok text
  | other => .error (.notAString key other)

/-- An object whose only key is a match mode and whose value is a text. -/
def modeAndText {Mode : Type} (part : String) (ofKey? : String → Option Mode)
    (argument : Json) : Except QueryFault (Mode × String) := do
  let (key, value) ← soleField part argument
  match ofKey? key with
  | none => .error (.unknownMode part key)
  | some mode =>
    let text ← textArgument (part ++ "." ++ key) value
    return (mode, text)

/-- The predicate with a key and an argument. -/
def predicate (key : String) (argument : Json) : Except QueryFault Node :=
  match key with
  | "id" => do
    let (mode, text) ← modeAndText key IdMode.ofKey? argument
    return .named mode (Text.words text)
  | "date" => (textArgument key argument).map (.date .exactly)
  | "before" => (textArgument key argument).map (.date .atMost)
  | "after" => (textArgument key argument).map (.date .atLeast)
  | "length" => (textArgument key argument).map (.length .exactly)
  | "maxlength" => (textArgument key argument).map (.length .atMost)
  | "minlength" => (textArgument key argument).map (.length .atLeast)
  | "exists" => do
    let name ← textArgument key argument
    match Field.ofKey? name with
    | some field => return .hasField field
    | none => .error (.unknownField name)
  | "isroot" =>
    match argument with
    | .bool expected => .ok (.isRoot expected)
    | other => .error (.notABoolean other)
  | "parent" => (textArgument key argument).map .parent
  | _ =>
    match Element.ofKey? key with
    | some element => do
      let (mode, text) ← modeAndText key TextMode.ofKey? argument
      return .search element mode text
    | none => .error (.unknownElement key)

end Document

open Document

namespace Node

mutual

/-- The query tree of a document. -/
def ofJson : Json → Except QueryFault Node
  | .object [(key, argument)] =>
    match Connective.ofKey? key with
    | some connective => (ofOperands key argument).map (.join connective)
    | none => if key = "not" then (ofJson argument).map .not else predicate key argument
  | .object fields => .error (.notOneKey "query node" (.object fields))
  | other => .error (.notAnObject "query node" other)

/-- The query trees of a connective's argument. -/
def ofOperands (key : String) : Json → Except QueryFault (List Node)
  | .array [] => .error (.noOperands key)
  | .array (item :: rest) => ofItems (item :: rest)
  | other => .error (.notAnArray key other)

/-- The query trees of documents in order, up to the first that is refused. -/
def ofItems : List Json → Except QueryFault (List Node)
  | [] => .ok []
  | item :: rest => do
    let node ← ofJson item
    let nodes ← ofItems rest
    return node :: nodes

end

end Node

end RegistryClient.Query

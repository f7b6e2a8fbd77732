import RegistryClient.Query.Element

/-!
# Query trees

A structured query: predicates on records, joined by connectives and negated.
-/

namespace RegistryClient.Query

/-- How the text of a search is matched. -/
inductive TextMode where
  /-- Some field has some word of the text. -/
  | words
  /-- Some field has the text as a phrase. -/
  | contains
  /-- Some field is the text. -/
  | exact
deriving DecidableEq, Repr

/-- How identifiers are matched. -/
inductive IdMode where
  /-- The record has one of the identifiers. -/
  | words
  /-- The record's identifier is the one given. -/
  | exact
deriving DecidableEq, Repr

/-- How a date or a length is compared with a value. -/
inductive Bound where
  | exactly
  | atMost
  | atLeast
deriving DecidableEq, Repr

/-- A field whose presence can be asked for. -/
inductive Field where
  | element (element : Element)
  | date
  | length
deriving DecidableEq, Repr

/-- A query tree. -/
inductive Node where
  | join (connective : Connective) (operands : List Node)
  | not (operand : Node)
  | search (element : Element) (mode : TextMode) (text : String)
  | named (mode : IdMode) (ids : List String)
  | date (bound : Bound) (value : String)
  | length (bound : Bound) (value : String)
  | hasField (field : Field)
  /-- The record is derived from no other one, or from some. -/
  | isRoot (expected : Bool)
  | parent (id : String)
deriving BEq, Repr

end RegistryClient.Query

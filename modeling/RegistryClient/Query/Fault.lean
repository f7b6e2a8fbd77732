import RegistryClient.Fault
import RegistryClient.Json.Text
import RegistryClient.Query.Term
import RegistryClient.Text.Blank

/-!
# What can be wrong with a query

The causes for which a query is refused before anything is sent: its document
has the wrong form, a predicate has an argument without meaning, or an operand
is missing.  All of them are faults of the caller's input.
-/

namespace RegistryClient

/-- Why a query is refused. -/
inductive QueryFault where
  | notAnObject (part : String) (got : Json)
  | notOneKey (part : String) (got : Json)
  | notAnArray (key : String) (got : Json)
  | noOperands (key : String)
  | notAString (key : String) (got : Json)
  | notABoolean (got : Json)
  | unknownMode (part mode : String)
  | unknownElement (name : String)
  | unknownField (name : String)
  | blankSearch (element : String)
  | blankValue (part : String)
  | noIdentifiers
  | invalidIdentifier (id : String)
  | severalIdentifiers (ids : List String)
  | severalFields (element : String)
  | nothingToJoin (connective : Query.Connective)
  | blankOperand (connective : Query.Connective) (index : Nat)
  | blankNegation
  | blankExpression
deriving BEq, Repr

namespace QueryFault

/-- The words for the cause. -/
def detail : QueryFault → String
  | .notAnObject part got => part ++ " must be an object, got " ++ got.compact
  | .notOneKey part got => part ++ " must have exactly one key, got " ++ got.compact
  | .notAnArray key got => key ++ " expects an array, got " ++ got.compact
  | .noOperands key => key ++ " requires at least one operand"
  | .notAString key got => key ++ " expects a string, got " ++ got.compact
  | .notABoolean got => "isroot expects a boolean, got " ++ got.compact
  | .unknownMode part mode => part ++ ": unknown match mode '" ++ mode ++ "'"
  | .unknownElement name => "unrecognized query element '" ++ name ++ "'"
  | .unknownField name => "exists: unknown element '" ++ name ++ "'"
  | .blankSearch element => element ++ ": search text is blank"
  | .blankValue part => part ++ ": value is blank"
  | .noIdentifiers => "id: no identifiers given"
  | .invalidIdentifier id => "invalid EIDR identifier '" ++ id ++ "'"
  | .severalIdentifiers ids =>
    "id: exact match takes exactly one identifier, got " ++ Text.joinWith " " ids
  | .severalFields element => "exists: '" ++ element ++ "' maps to more than one field path"
  | .nothingToJoin connective => connective.word ++ " requires at least one expression"
  | .blankOperand connective index =>
    connective.word ++ " operand " ++ index.repr ++ " is blank"
  | .blankNegation => "NOT requires a non-blank expression"
  | .blankExpression => "query expression is blank"

/-- A refused query is a fault of the caller's input. -/
def toFault (fault : QueryFault) : Fault :=
  .invalidInput fault.detail

end QueryFault

end RegistryClient

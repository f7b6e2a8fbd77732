import RegistryClient.Record.Normalize
import RegistryClient.Resolution.Plan
import RegistryClient.Response.Attributes
import RegistryClient.Response.Status

/-!
# Records and pages of a response

`Plan.extract` takes the record of a resolution out of the response and
`queryPage` the page of a query.  Both check the status first, drop the
attributes of the records and normalize them.
-/

namespace RegistryClient.Response

/-- A missing, single or repeated value as a list. -/
def toList : Option Json → List Json
  | none => []
  | some .null => []
  | some (.array items) => items
  | some single => [single]

/-- The fields of an object. -/
def fields? : Json → Option Fields
  | .object fields => some fields
  | _ => none

/-! ## Records -/

/-- The extra data of a payload; there is none when it is not an object. -/
def extraData (payload : Fields) : Fields :=
  ((payload.get? "ExtraObjectMetadata").bind fields?).getD []

/-- The record in a payload. -/
def recordOf? (extraction : Resolution.Extraction) (payload : Fields) : Option Fields :=
  match extraction with
  | .merged _ => do
    let base ← (payload.get? "BaseObjectData").bind fields?
    return (withoutAttributes base).override (withoutAttributes (extraData payload))
  | .idList _ property => do
    let id ← payload.get? "ID"
    return Fields.ofList [("ID", id), (property, .array (toList (payload.get? property)))]
  | .stripped _ => some (withoutAttributes payload)

/-- The record in an envelope. -/
def recordIn? (extraction : Resolution.Extraction) (envelope : Json) : Option Fields := do
  let payload ← (envelope.get? extraction.payloadKey).bind fields?
  recordOf? extraction payload

/-- The record that a plan was made for. -/
def extract (plan : Resolution.Plan) (document : Json) : Except Fault Json := do
  let envelope := envelope document
  checkStatus envelope
  match recordIn? plan.extraction envelope with
  | some fields => return Record.normalize (.object fields)
  | none =>
    throw (ResponseFault.missingPayload plan.id plan.view.name plan.extraction.payloadKey).toFault

/-! ## Pages of query results -/

/-- What a query returns of each match. -/
inductive ResultFormat where
  | metadata
  | idOnly
deriving DecidableEq, Repr

namespace ResultFormat

def name : ResultFormat → String
  | .metadata => "Metadata"
  | .idOnly => "IdOnly"

/-- The key of the matches among the query results. -/
def listKey : ResultFormat → String
  | .metadata => "SimpleMetadata"
  | .idOnly => "ID"

end ResultFormat

/-- A page of query results. -/
structure QueryPage where
  /-- How many matches there are on all pages. -/
  totalMatches : Nat
  results : List Json
deriving BEq, Repr

/-- The greatest count of matches. -/
def greatestCount : Nat := Text.greatestOfBits 64

/-- The number of a text: decimal digits, perhaps after a plus sign, that stay
within 64 bits. -/
def count? (text : String) : Option Nat :=
  let digits := match text.toList with
    | '+' :: digits => digits
    | digits => digits
  if digits.isEmpty || !digits.all Char.isDigit then none
  else
    let value := Nat.ofDigitChars 10 digits 0
    if value ≤ greatestCount then some value else none

/-- A match with its attributes dropped and normalized; one that is no object
stays as it is. -/
def resultOf : Json → Json
  | .object fields => Record.normalize (.object (withoutAttributes fields))
  | other => other

/-- The page of query results in a document. -/
def queryPage (format : ResultFormat) (document : Json) : Except Fault QueryPage := do
  let envelope := envelope document
  checkStatus envelope
  match (envelope.get? "QueryResults").bind fields? with
  | none => throw ResponseFault.missingResults.toFault
  | some results =>
    match ((results.get? "TotalMatches").bind scalarText?).bind count? with
    | none => throw ResponseFault.missingCount.toFault
    | some total => return ⟨total, (toList (results.get? format.listKey)).map resultOf⟩

end RegistryClient.Response

import RegistryClient.Fault

/-!
# What can be wrong with a response

The causes for which a response of the registry is not understood.
-/

namespace RegistryClient

/-- Why a response is not understood. -/
inductive ResponseFault where
  /-- The text is no XML document.  A text that has no root element is one of these; it has no
  fault of its own. -/
  | notWellFormed
  /-- An element has text of its own and a child that would take its place. -/
  | textBesideValue (element : String)
  | noStatusCode
  /-- The view of a record is not there, or a required part of it is not. -/
  | missingPayload (id view payload : String)
  | missingResults
  /-- The query results have no count, or one that is not a number. -/
  | missingCount
deriving DecidableEq, Repr

namespace ResponseFault

/-- The words for the cause.  Of a text that is no XML document they say no more than that: what
the XML reader stumbled over, and where, is left out, and so is whether a root element is all that
the text lacks. -/
def detail : ResponseFault → String
  | .notWellFormed => "response is not well-formed XML"
  | .textBesideValue element => s!"element '{element}' has both text and a 'value' child"
  | .noStatusCode => "registry status has no code"
  | .missingPayload id view payload =>
    s!"response for '{id}' with resolution type '{view}' is missing '{payload}'"
  | .missingResults => "query response is missing 'QueryResults'"
  | .missingCount => "query response is missing a numeric 'TotalMatches'"

def toFault (fault : ResponseFault) : Fault :=
  .unrecognizedResponse fault.detail

end ResponseFault

end RegistryClient

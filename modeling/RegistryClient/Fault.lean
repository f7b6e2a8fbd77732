/-!
# Faults

Every way in which a call can fail, by the stage that failed: the caller's
input, the caller's credentials, an operation the registry does not offer, the
transport, the registry itself, or a response that cannot be understood.

Each fault has a kind, a text, and a status in the manner of HTTP.
-/

namespace RegistryClient

/-- The stage at which a call failed. -/
inductive FaultKind where
  | invalidInput
  | unauthorized
  | unsupportedOperation
  | transportError
  | registryError
  | unrecognizedResponse
deriving DecidableEq, Repr

namespace FaultKind

/-- The name of a kind in machine-readable output. -/
def name : FaultKind → String
  | .invalidInput => "invalidInput"
  | .unauthorized => "unauthorized"
  | .unsupportedOperation => "unsupportedOperation"
  | .transportError => "transportError"
  | .registryError => "registryError"
  | .unrecognizedResponse => "unrecognizedResponse"

end FaultKind

/-- A failed call. -/
inductive Fault where
  /-- The call's arguments are not well formed. -/
  | invalidInput (detail : String)
  /-- The call needs credentials that are not there. -/
  | unauthorized (detail : String)
  /-- The registry does not offer what was asked for. -/
  | unsupported (detail : String)
  /-- The request was not answered with success; the status is the transport's
  own, or zero when there was no answer. -/
  | transport (status : Nat) (message : String)
  /-- The registry answered with a status code of failure. -/
  | registry (code : String) (message : String)
  /-- The response does not have the expected form. -/
  | unrecognizedResponse (detail : String)
deriving DecidableEq, Repr

namespace Fault

def kind : Fault → FaultKind
  | .invalidInput _ => .invalidInput
  | .unauthorized _ => .unauthorized
  | .unsupported _ => .unsupportedOperation
  | .transport _ _ => .transportError
  | .registry _ _ => .registryError
  | .unrecognizedResponse _ => .unrecognizedResponse

/-- The registry's codes for a failed authentication and a refused authorization. -/
def accessDeniedCodes : List String := ["4", "5"]

/-- The registry does not let this caller see the record. -/
def isAccessDenied : Fault → Bool
  | .registry code _ => accessDeniedCodes.contains code
  | _ => false

/-- The status of a fault in the manner of HTTP. -/
def status (fault : Fault) : Nat :=
  match fault with
  | .invalidInput _ => 400
  | .unauthorized _ => 401
  | .unsupported _ => 501
  | .transport status _ => status
  | .registry _ _ => if fault.isAccessDenied then 403 else 502
  | .unrecognizedResponse _ => 502

/-- What happened, without the words for the kind of fault. -/
def detail : Fault → String
  | .invalidInput detail => detail
  | .unauthorized detail => detail
  | .unsupported detail => detail
  | .transport _ message => message
  | .registry code message => s!"[{code}] {message}"
  | .unrecognizedResponse detail => detail

/-- The full text of a fault. -/
def message : Fault → String
  | .invalidInput detail => s!"Invalid input: {detail}"
  | .unauthorized detail => s!"Unauthorized: {detail}"
  | .unsupported detail => s!"Unsupported: {detail}"
  | .transport status message => s!"Transport failed with status {status}: {message}"
  | .registry code message => s!"Registry returned status {code}: {message}"
  | .unrecognizedResponse detail => s!"Unrecognized response: {detail}"

end Fault

end RegistryClient

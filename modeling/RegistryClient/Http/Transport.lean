import RegistryClient.Config
import RegistryClient.Http.Address
import RegistryClient.Http.Reason
import RegistryClient.Text.Utf8
import RegistryClient.Request
import RegistryClient.Response.Document

/-!
# Requests over HTTP

What comes of sending a request: an answer with a status and a body, or a
failure before there is one.  The body of a successful answer is the response;
any other answer is a fault of the transport that carries the status, and the
body as its message or, when that is blank, the reason of the status.

A request to something that is no address, or with a header that no message can
carry, is not sent at all.
-/

namespace RegistryClient.Http

/-- What came of sending a request. -/
inductive Outcome where
  | answered (status : Nat) (body : List UInt8)
  | refused
  | timedOut
  | unsendable
deriving DecidableEq, Repr

/-! ## Addresses -/

/-- An address without the slashes at its end. -/
def base (address : String) : String :=
  String.ofList (Config.withoutSlashes address.toList)

/-- The address that a request is sent to. -/
def target (address : String) (request : Request) : String :=
  base address ++ request.path

/-! ## Headers -/

/-- A character that a header's name may have. -/
def isNameChar (c : Char) : Bool :=
  c.isAlphanum ||
    ['!', '#', '$', '%', '&', '\'', '*', '+', '-', '.', '^', '_', '\x60', '|', '~'].contains c

/-- A character that a header's value may have: any but the controls, and the tab. -/
def isValueChar (c : Char) : Bool :=
  (0x20 ≤ c.toNat && c.toNat ≠ 0x7F) || c == '\t'

/-- A header that a message can carry. -/
def isSendableHeader (header : String × String) : Bool :=
  header.1 ≠ "" && header.1.toList.all isNameChar && header.2.toList.all isValueChar

/-- The request can be sent to the registry at an address. -/
def isSendable (address : String) (request : Request) : Bool :=
  isAddress (target address request) && request.headers.all isSendableHeader

/-! ## Answers -/

/-- A status of success. -/
def isSuccess (status : Nat) : Bool :=
  200 ≤ status && status ≤ 299

/-- The message for an answer without success. -/
def failureMessage (status : Nat) (body : String) : String :=
  let text := Text.trim body
  if text = "" then (reason? status).getD "request failed" else text

/-- The document of an answer. -/
def documentOf (status : Nat) (body : String) : Except Fault Json :=
  if isSuccess status then Response.parseDocument body
  else .error (.transport status (failureMessage status body))

/-- The document that came of sending a request. -/
def Outcome.document : Outcome → Except Fault Json
  | .answered status body => documentOf status (Text.decodeBytes body)
  | .refused => .error (.transport 0 "connection failed")
  | .timedOut => .error (.transport 0 "request timed out")
  | .unsendable => .error (.transport 0 "builder error")

/-- What comes of a request to an address where sending it would come to `outcome`. -/
def send (address : String) (request : Request) (outcome : Outcome) : Outcome :=
  if isSendable address request then outcome else .unsendable

end RegistryClient.Http

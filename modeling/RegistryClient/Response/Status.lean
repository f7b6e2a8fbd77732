import RegistryClient.Json.Text
import RegistryClient.Record.WrapRule
import RegistryClient.Response.Fault
import RegistryClient.Text.Blank

/-!
# The status of a response

Query responses and refusals are wrapped in a `Response`; a resolved record
stands at the root.  Either may have a status, and a status without a code is
not understood.  The code `0` is success and a missing status is taken for it.

A scalar of the status may be wrapped as the value of a record; `scalarText?`
reads it through any number of wrappings.
-/

namespace RegistryClient.Response

/-- The part of a document that holds the status and the payload. -/
def envelope (document : Json) : Json :=
  (document.get? "Response").getD document

mutual

/-- The text of a scalar, bare or wrapped. -/
def scalarText? : Json → Option String
  | .string text => some (Text.trim text)
  | .number value => some value.text
  | .bool true => some "true"
  | .bool false => some "false"
  | .object fields => wrappedText? fields
  | _ => none

/-- The text of the scalar that fields wrap. -/
def wrappedText? : List (String × Json) → Option String
  | [] => none
  | (key, value) :: rest =>
    if key = Record.valueKey then scalarText? value else wrappedText? rest

end

/-- The text of the scalar under a key. -/
def textAt? (key : String) (value : Json) : Option String :=
  (value.get? key).bind scalarText?

/-- The registry's code for success. -/
def successCode : String := "0"

/-- What a status says about a failure: its details, else its type, else nothing. -/
def statusMessage (status : Json) : String :=
  ((textAt? "Details" status).or (textAt? "Type" status)).getD ""

/-- Fails when the status says so. -/
def checkStatus (envelope : Json) : Except Fault Unit :=
  match envelope.get? "Status" with
  | none => .ok ()
  | some status =>
    match textAt? "Code" status with
    | none => .error ResponseFault.noStatusCode.toFault
    | some code =>
      if code = "" then .error ResponseFault.noStatusCode.toFault
      else if code = successCode then .ok ()
      else .error (.registry code (statusMessage status))

end RegistryClient.Response

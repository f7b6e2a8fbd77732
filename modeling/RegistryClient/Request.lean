/-!
# Requests

What is sent to the registry for one call.  Header names are compared without
regard to the case of ASCII letters.
-/

namespace RegistryClient

/-- The verb of a request. -/
inductive Method where
  | get
  | post
deriving DecidableEq, Repr

def Method.name : Method → String
  | .get => "GET"
  | .post => "POST"

/-- A request to the registry. -/
structure Request where
  method : Method
  /-- Path and query, from the first slash on. -/
  path : String
  /-- Names and values, in the order in which they are sent. -/
  headers : List (String × String)
  body : Option String
deriving DecidableEq, Repr

namespace Request

/-- A text with its ASCII letters in lower case. -/
def lowerCase (text : String) : String :=
  String.ofList (text.toList.map Char.toLower)

/-- The value of the first header with a name. -/
def header? (request : Request) (name : String) : Option String :=
  (request.headers.find? fun header => lowerCase header.1 == lowerCase name).map Prod.snd

end Request

end RegistryClient

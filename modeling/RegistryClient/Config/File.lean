import RegistryClient.Config
import RegistryClient.Text.Cut
import RegistryClient.Text.Digit
import RegistryClient.Yaml.Document

/-!
# Configuration files

A configuration file is a YAML mapping.  A field that is missing keeps its
default, unknown fields are ignored, and a known field may stand only once.
A text field takes any scalar as it is written; of the credentials, a plain
`null` or nothing at all is a part that is missing.  A number field takes a
numeral in range.
-/

namespace RegistryClient

/-- Why a configuration file is refused. -/
inductive ConfigFileFault where
  | unreadable
  | malformed
  | invalid (fault : ConfigFault)
deriving DecidableEq, Repr

namespace Config

open Yaml

/-- The entries of a mapping by their keys, which are all scalars; nothing at all
counts as an empty mapping.  Aliases are replaced by what they stand for. -/
def entries? (document : Yaml.Document) (node : Yaml.Node) :
    Option (List (String × Yaml.Node)) :=
  match document.resolve node with
  | .mapping _ entries =>
    entries.mapM fun (key, value) =>
      (document.resolve key).text?.map fun name => (name, document.resolve value)
  | .scalar _ .plain "" => some []
  | _ => none

/-- The value of a field; `none` when the field stands there more than once. -/
def entry? (name : String) (entries : List (String × Yaml.Node)) : Option (Option Yaml.Node) :=
  match entries.filter fun entry => entry.1 == name with
  | [] => some none
  | [(_, value)] => some (some value)
  | _ => none

/-! ## Fields -/

/-- A text field, which has a default. -/
def textField? (name default : String) (entries : List (String × Yaml.Node)) :
    Option String := do
  match ← entry? name entries with
  | none => return default
  | some node => node.text?

/-- A text field that may be missing. -/
def optionalField? (name : String) (entries : List (String × Yaml.Node)) :
    Option (Option String) := do
  match ← entry? name entries with
  | none => return none
  | some node => node.optionalText?

/-- The bases that a numeral can be marked with. -/
def baseMarks : List (List Char × Nat) :=
  [(['0', 'x'], 16), (['0', 'o'], 8), (['0', 'b'], 2)]

/-- The number of a numeral: decimal without superfluous zeros, or marked with
another base, perhaps after a plus sign. -/
def numeral? (text : String) : Option Nat :=
  let unsigned := match text.toList with
    | '+' :: rest => rest
    | rest => rest
  let marked := baseMarks.findSome? fun (mark, base) =>
    (Text.after? mark unsigned).bind (Text.numeral? base)
  let superfluous := unsigned.head? == some '0' && unsigned.length > 1
  marked.or (if superfluous then none else Text.numeral? 10 unsigned)

/-- A number field, which has a default and a greatest value. -/
def numberField? (name : String) (default greatest : Nat)
    (entries : List (String × Yaml.Node)) : Option Nat := do
  match ← entry? name entries with
  | none => return default
  | some node =>
    let value ← node.numeralText?.bind numeral?
    if value ≤ greatest then return value else none

/-- The credentials, none of which need be there. -/
def credentials? (entries : List (String × Yaml.Node)) : Option Credentials := do
  let userId ← optionalField? "user_id" entries
  let partyId ← optionalField? "party_id" entries
  let passwordShadow ← optionalField? "password_shadow" entries
  return ⟨userId, partyId, passwordShadow⟩

/-- The configuration of a document. -/
def ofDocument? (document : Yaml.Document) : Option Config := do
  let entries ← entries? document document.root
  let endpoint ← textField? "endpoint" default.endpoint entries
  let apiVersion ← textField? "api_version" default.apiVersion entries
  let timeoutSeconds ←
    numberField? "timeout_secs" default.timeoutSeconds (Text.greatestOfBits 64) entries
  let pageSize ← numberField? "page_size" default.pageSize (Text.greatestOfBits 32) entries
  let credentials ←
    match ← entry? "credentials" entries with
    | none => some Credentials.anonymous
    | some node => (entries? document node).bind credentials?
  return ⟨endpoint, apiVersion, timeoutSeconds, pageSize, credentials⟩

/-- The configuration of a YAML text, not yet validated. -/
def ofText? (text : String) : Option Config :=
  (Yaml.Document.parse? text).bind ofDocument?

/-- The configuration in a file with this content, if the file could be read. -/
def ofFile (content : Option ByteArray) : Except ConfigFileFault Config :=
  match content.bind String.fromUTF8? with
  | none => .error .unreadable
  | some text =>
    match ofText? text with
    | none => .error .malformed
    | some config =>
      match config.validate with
      | .error fault => .error (.invalid fault)
      | .ok () => .ok config

end Config

end RegistryClient

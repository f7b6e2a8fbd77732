import RegistryClient.Fault
import RegistryClient.Identifier

/-!
# Kinds of records and their views

An identifier says by its authority whether it names a content record, a party
or a service.  Each kind of record can be resolved to certain views, and each
view of a kind is found at a certain place of the response, in one of three
shapes: `Extraction.of?` is that table.
-/

namespace RegistryClient.Resolution

/-- What an identifier names. -/
inductive RecordKind where
  /-- Audiovisual content. -/
  | content
  /-- A studio, distributor or registrant. -/
  | party
  /-- A channel or platform. -/
  | service
deriving DecidableEq, Repr

/-- A selection of a record's data. -/
inductive View where
  | full
  | selfDefined
  | simple
  | provenance
  | doiKernel
  | alternateIds
  | linkedAlternateIds
deriving DecidableEq, Repr

/-- How the data of a view is taken out of a response. -/
inductive Extraction where
  /-- The base data of the payload, which must be there, overridden by the extra
  data, which need not. -/
  | merged (payload : String)
  /-- The identifier and a list of other identifiers, which may be missing. -/
  | idList (payload property : String)
  /-- The payload without its attributes. -/
  | stripped (payload : String)
deriving DecidableEq, Repr

/-- Why a record cannot be resolved to a view. -/
inductive PlanFault where
  | invalidIdentifier (id : String)
  | unsupportedAuthority (authority : String)
  | unknownView (name : String)
  | viewNotOffered (view : View) (kind : RecordKind)
deriving DecidableEq, Repr

namespace View

/-- Every view, in the order of the table. -/
def all : List View :=
  [.full, .selfDefined, .simple, .provenance, .doiKernel, .alternateIds, .linkedAlternateIds]

/-- The name of a view in requests, which is also the one callers use. -/
def name : View → String
  | .full => "Full"
  | .selfDefined => "SelfDefined"
  | .simple => "Simple"
  | .provenance => "Provenance"
  | .doiKernel => "DOIKernel"
  | .alternateIds => "AlternateIDs"
  | .linkedAlternateIds => "LinkedAlternateIDs"

/-- The view with a name. -/
def ofName (name : String) : Except PlanFault View :=
  match all.find? fun view => view.name = name with
  | some view => .ok view
  | none => .error (.unknownView name)

/-- The view that is resolved to when the caller names none. -/
def default : View := .full

end View

namespace RecordKind

def name : RecordKind → String
  | .content => "content"
  | .party => "party"
  | .service => "service"

/-- The kind of record that an identifier names. -/
def ofIdentifier (id : String) : Except PlanFault RecordKind :=
  if Identifier.isValid id then
    match Identifier.authority id with
    | "10.5240" => .ok .content
    | "10.5237" => .ok .party
    | "10.5239" => .ok .service
    | other => .error (.unsupportedAuthority other)
  else .error (.invalidIdentifier id)

/-- The start of the path at which records of a kind are resolved. -/
def resolvePath : RecordKind → String
  | .content => "/EIDR/object/"
  | .party => "/EIDR/party/resolve/"
  | .service => "/EIDR/service/resolve/"

/-- The views of a kind of record. -/
def views : RecordKind → List View
  | .content => View.all
  | .party => [.full, .doiKernel]
  | .service => [.full, .doiKernel]

end RecordKind

namespace Extraction

/-- The key of the payload. -/
def payloadKey : Extraction → String
  | .merged payload => payload
  | .idList payload _ => payload
  | .stripped payload => payload

/-- Where and how a view of a kind of record is found; `none` when that kind does
not have the view. -/
def of? : RecordKind → View → Option Extraction
  | .content, .full => some (.merged "FullMetadata")
  | .content, .selfDefined => some (.merged "SelfDefinedMetadata")
  | .content, .simple => some (.stripped "SimpleMetadata")
  | .content, .provenance => some (.stripped "ProvenanceMetadata")
  | .content, .alternateIds => some (.idList "AlternateIDs" "AlternateID")
  | .content, .linkedAlternateIds => some (.idList "LinkedAlternateIDs" "LinkedAlternateID")
  | _, .doiKernel => some (.stripped "kernelMetadata")
  | .party, .full => some (.stripped "Party")
  | .service, .full => some (.stripped "Service")
  | _, _ => none

end Extraction

namespace PlanFault

/-- The words for the cause. -/
def detail : PlanFault → String
  | .invalidIdentifier id => s!"invalid EIDR identifier '{id}'"
  | .unsupportedAuthority authority => s!"unsupported identifier type '{authority}'"
  | .unknownView name => s!"unsupported resolution type '{name}'"
  | .viewNotOffered view kind =>
    "resolution type '" ++ view.name ++ "' is not available for " ++ kind.name ++ " identifiers"

/-- A text that is not an identifier is a fault of the input; the other causes
ask for something that the registry does not offer. -/
def toFault (fault : PlanFault) : Fault :=
  match fault with
  | .invalidIdentifier _ => .invalidInput fault.detail
  | _ => .unsupported fault.detail

end PlanFault

end RegistryClient.Resolution

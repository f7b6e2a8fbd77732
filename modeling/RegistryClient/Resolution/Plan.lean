import RegistryClient.Request
import RegistryClient.Resolution.View
import RegistryClient.Text.Percent

/-!
# Plans for resolving records

A plan is everything about one resolution that is known before the request: the
path to ask for and the place of the record in the response.  Making the plan
checks the identifier first, then the name of the view, then whether the record
has that view.
-/

namespace RegistryClient.Resolution

/-- A resolution that can be carried out. -/
structure Plan where
  id : String
  kind : RecordKind
  view : View
  path : String
  extraction : Extraction
deriving DecidableEq, Repr

namespace Plan

/-- The verb of a resolution. -/
def method (_ : Plan) : Method := .get

/-- The path of a record's view. -/
def pathOf (kind : RecordKind) (id : String) (view : View) : String :=
  kind.resolvePath ++ Text.percentEncode id ++ "?type=" ++ view.name

/-- The plan for a view of a record. -/
def make (id viewName : String) : Except PlanFault Plan := do
  let kind ← RecordKind.ofIdentifier id
  let view ← View.ofName viewName
  match Extraction.of? kind view with
  | none => .error (.viewNotOffered view kind)
  | some extraction => return ⟨id, kind, view, pathOf kind id view, extraction⟩

end Plan

end RegistryClient.Resolution

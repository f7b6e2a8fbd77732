import RegistryClient.Fault
import RegistryClient.Json.Basic
import RegistryClient.Text.Blank

/-!
# Wrap rules

A field that has attributes in one response and none in another arrives as an
object in the one and as a bare scalar in the other.  A wrap rule names such a
field, and applying the rule puts each bare scalar there under the key `value`
of an object of its own, so that readers find one shape.

A rule is a path of keys that ends in the key of the field.  `*` stands for any
one key on the way.  Arrays on the way are passed through item by item; at the
end the scalars that are items of an array are wrapped each, but an array inside
that array is left alone.
-/

namespace RegistryClient.Record

/-- One step of a path. -/
inductive Segment where
  | any
  | key (name : String)
deriving DecidableEq, Repr

namespace Segment

/-- How a step through any key is written. -/
def wildcard : String := "*"

def ofText (text : String) : Segment :=
  if text = wildcard then .any else .key text

def text : Segment → String
  | .any => wildcard
  | .key name => name

/-- The step leads through this key. -/
def leadsThrough (segment : Segment) (key : String) : Bool :=
  match segment with
  | .any => true
  | .key name => name == key

end Segment

/-- A rule: the way to the records that have a field, and the key of the field. -/
structure WrapRule where
  path : List Segment
  field : String
deriving DecidableEq, Repr

/-- Why a text is not a rule. -/
inductive WrapRuleFault where
  | emptySegment (rule : String)
  | endsInWildcard (rule : String)
deriving DecidableEq, Repr

namespace WrapRuleFault

def detail : WrapRuleFault → String
  | .emptySegment rule => "wrap rule '" ++ rule ++ "' has an empty segment"
  | .endsInWildcard rule => "wrap rule '" ++ rule ++ "' cannot end with a wildcard"

def toFault (fault : WrapRuleFault) : Fault :=
  .invalidInput fault.detail

end WrapRuleFault

/-- The key under which a wrapped scalar stands. -/
def valueKey : String := "value"

namespace WrapRule

/-- The steps of a rule, the one to its field included. -/
def steps (rule : WrapRule) : List Segment :=
  rule.path ++ [.key rule.field]

/-- The rule with a text: its segments with dots between them. -/
def parse (rule : String) : Except WrapRuleFault WrapRule :=
  let segments := Text.split '.' rule
  let field := segments.getLastD ""
  if segments.any (· == "") then .error (.emptySegment rule)
  else if field = Segment.wildcard then .error (.endsInWildcard rule)
  else .ok ⟨segments.dropLast.map Segment.ofText, field⟩

/-- The text of a rule. -/
def text (rule : WrapRule) : String :=
  Text.joinWith "." (rule.path.map Segment.text ++ [rule.field])

/-! ## Application -/

/-- A scalar as a record of its own. -/
def wrap (scalar : Json) : Json :=
  .object [(valueKey, scalar)]

/-- A scalar wrapped; arrays and objects stay as they are. -/
def wrapScalar (value : Json) : Json :=
  if value.isScalar then wrap value else value

/-- The value of a field with its scalar wrapped, or the scalars among its items. -/
def wrapField : Json → Json
  | .array items => .array (items.map wrapScalar)
  | value => wrapScalar value

mutual

/-- The tree with the field wrapped in every record that the path leads to. -/
def applyAlong (path : List Segment) (field : String) : Json → Json
  | .array items => .array (applyToItems path field items)
  | .object fields => .object (applyToFields path field fields)
  | scalar => scalar

/-- Every item with the field wrapped where the path leads to. -/
def applyToItems (path : List Segment) (field : String) : List Json → List Json
  | [] => []
  | item :: rest => applyAlong path field item :: applyToItems path field rest

/-- At the end of the path the field itself is wrapped; before that, the fields
that the next step leads through are entered. -/
def applyToFields (path : List Segment) (field : String) :
    List (String × Json) → List (String × Json)
  | [] => []
  | (key, value) :: rest =>
    (key, match path with
      | [] => if key = field then wrapField value else value
      | segment :: further =>
        if segment.leadsThrough key then applyAlong further field value else value) ::
      applyToFields path field rest

end

/-- The tree with the rule applied to it. -/
def apply (rule : WrapRule) (tree : Json) : Json :=
  applyAlong rule.path rule.field tree

end WrapRule

end RegistryClient.Record

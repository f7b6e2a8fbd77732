import RegistryClient.Json.Basic
import RegistryClient.Record.WrapRule
import RegistryClient.Response.Fault
import RegistryClient.Response.Attributes
import RegistryClient.Text.Blank
import RegistryClient.Xml.Element

/-!
# Elements as JSON values

An element without attributes and child elements is its text.  Any other element
is an object: a child stands under its local name, several children of one name
as an array in document order, the attributes under `$` by their local names,
and the element's own text, when it is not blank, under `value`.

An element's own text is all its text and CDATA sections in order, trimmed.
Comments, processing instructions and namespace qualifiers leave no trace.  An
element that has both text and a child called `value` has no such form.
-/

namespace RegistryClient.Xml

/-- The attributes by their local names; of several with one local name the last counts. -/
def attributeFields (attributes : List Attribute) : Fields :=
  Fields.ofList (attributes.map fun given => (given.name.localName, .string given.value))

/-- The text of the pieces of content, without blanks at its ends. -/
def ownText (content : List Content) : String :=
  Text.trim (String.join (content.map Content.ownText))

/-- A child added to the fields of its element: the second of one name makes an array. -/
def addChild (fields : Fields) (child : String × Json) : Fields :=
  match fields.get? child.1 with
  | none => fields.insert child.1 child.2
  | some (.array items) => fields.insert child.1 (.array (items ++ [child.2]))
  | some first => fields.insert child.1 (.array [first, child.2])

/-- The fields of an element's children in document order. -/
def childFields (children : List (String × Json)) : Fields :=
  children.foldl addChild []

/-- The value of an element whose children have been decoded. -/
def elementValue (localName : String) (attributes : List Attribute)
    (children : List (String × Json)) (text : String) : Except ResponseFault Json :=
  let fields := childFields children
  if attributes.isEmpty && children.isEmpty then .ok (.string text)
  else if text ≠ "" ∧ (fields.get? Record.valueKey).isSome then
    .error (.textBesideValue localName)
  else
    let attributesField :=
      if attributes.isEmpty then []
      else [(Response.attributesKey, .object (attributeFields attributes))]
    let textField := if text = "" then [] else [(Record.valueKey, .string text)]
    .ok (.object ((Fields.ofList (attributesField ++ textField)).override fields))

mutual

/-- The value of an element; the faults of its children come before its own. -/
def Element.toJson : Element → Except ResponseFault Json
  | .mk name attributes content => do
    let children ← childValues content
    elementValue name.localName attributes children (ownText content)

/-- The local names and values of the child elements, in document order. -/
def childValues : List Content → Except ResponseFault (List (String × Json))
  | [] => .ok []
  | .element child :: rest => do
    let value ← child.toJson
    let values ← childValues rest
    return (child.name.localName, value) :: values
  | _ :: rest => childValues rest

end

/-- The document of a root element: an object whose only key is its local name. -/
def Element.toDocument (root : Element) : Except ResponseFault Json := do
  let value ← root.toJson
  return .object [(root.name.localName, value)]

end RegistryClient.Xml

/-!
# XML elements

An element has a name, attributes and content: elements, text, CDATA sections,
comments and processing instructions in document order.  Namespace declarations
are not among the attributes.
-/

namespace RegistryClient.Xml

/-- A name as written, with the part before the colon if there is one. -/
structure Name where
  qualifier : Option String
  localName : String
deriving DecidableEq, Repr, Inhabited

structure Attribute where
  name : Name
  value : String
deriving DecidableEq, Repr, Inhabited

mutual

/-- An element with its attributes and its content. -/
inductive Element where
  | mk (name : Name) (attributes : List Attribute) (content : List Content)

/-- A piece of an element's content. -/
inductive Content where
  | element (child : Element)
  | text (characters : String)
  | cdata (characters : String)
  | comment (characters : String)
  | instruction (target : String) (data : String)

end

instance : Inhabited Element := ⟨.mk default [] []⟩

namespace Element

def name : Element → Name
  | .mk name _ _ => name

def attributes : Element → List Attribute
  | .mk _ attributes _ => attributes

def content : Element → List Content
  | .mk _ _ content => content

end Element

/-- The text that a piece of content adds to the element it stands in. -/
def Content.ownText : Content → String
  | .text characters => characters
  | .cdata characters => characters
  | _ => ""

end RegistryClient.Xml

import RegistryClient.Xml.Token

/-!
# XML documents

A document is one root element with comments, processing instructions and white
space around it, after an optional declaration.  A document type may stand before
the root, but not as the very first thing.

Qualified names need a declared qualifier.  A declaration is in force for the
element that has it, name and attributes included, and for all inside it.  The
qualifier `xml` is declared by the root element for its attributes and content,
though not for the root's own name.
-/

namespace RegistryClient.Xml

/-- The name of the attributes that declare namespaces. -/
def declarationName : String := "xmlns"

/-- The qualifier that the root element declares. -/
def predeclared : String := "xml"

/-- An element whose end tag has not been read. -/
structure OpenElement where
  name : Name
  attributes : List Attribute
  /-- The qualifiers declared for its content. -/
  scope : List String
  /-- Its content so far, last piece first. -/
  content : List Content

/-- The attribute declares a qualifier. -/
def declaresQualifier (given : Attribute) : Bool :=
  given.name.qualifier == some declarationName

/-- The attribute's local name is the one of declarations; an element has at most
one such attribute, whatever its qualifier. -/
def isOfDeclarationName (given : Attribute) : Bool :=
  given.name.localName == declarationName

/-- The attribute is kept: neither declarations nor attributes of their name are. -/
def isKept (given : Attribute) : Bool :=
  !isOfDeclarationName given && !declaresQualifier given

/-- The name has no qualifier, or a declared one. -/
def isDeclared (scope : List String) (name : Name) : Bool :=
  match name.qualifier with
  | none => true
  | some qualifier => scope.contains qualifier

/-- The order of attributes: those without qualifier first, then by qualifier. -/
def qualifierLe (left right : Attribute) : Bool :=
  match left.name.qualifier, right.name.qualifier with
  | none, _ => true
  | some _, none => false
  | some first, some second => first ≤ second

/-- An element at its start tag, inside content with these qualifiers declared. -/
def openElement? (scope : List String) (name : Name) (attributes : List Attribute) :
    Option OpenElement :=
  let declarations := attributes.filter declaresQualifier
  let own := declarations.map (·.name.localName) ++ scope
  let inner := predeclared :: own
  let kept := attributes.filter isKept
  if (attributes.map (·.name)).eraseDups.length = attributes.length &&
      attributes.countP isOfDeclarationName ≤ 1 && declarations.all (·.value ≠ "") &&
      isDeclared own name && kept.all (isDeclared inner ·.name) then
    some ⟨name, kept.mergeSort qualifierLe, inner, []⟩
  else none

namespace OpenElement

/-- The element at its end tag. -/
def close (parent : OpenElement) : Element :=
  .mk parent.name parent.attributes parent.content.reverse

def add (parent : OpenElement) (piece : Content) : OpenElement :=
  { parent with content := piece :: parent.content }

end OpenElement

/-- The root element and the tokens after it; `parents` are the open elements
around the current one, innermost first. -/
def readContent (current : OpenElement) (parents : List OpenElement) :
    List Token → Option (Element × List Token)
  | [] => none
  | .doctype :: _ => none
  | .text raw :: rest =>
    match expand? raw with
    | none => none
    | some text => readContent (current.add (.text text)) parents rest
  | .cdata text :: rest => readContent (current.add (.cdata (String.ofList text))) parents rest
  | .comment text :: rest => readContent (current.add (.comment (String.ofList text))) parents rest
  | .instruction target data :: rest =>
    readContent (current.add (.instruction target (String.ofList data))) parents rest
  | .startTag name attributes tagEnd :: rest =>
    match openElement? current.scope name attributes with
    | none => none
    | some child =>
      match tagEnd with
      | .closed => readContent (current.add (.element child.close)) parents rest
      | .opening => readContent child (current :: parents) rest
  | .endTag name :: rest =>
    if name = current.name then
      match parents with
      | [] => some (current.close, rest)
      | parent :: further => readContent (parent.add (.element current.close)) further rest
    else none

/-- The token may stand outside the root element. -/
def isOutside : Token → Bool
  | .text raw => raw.all isSpace
  | .comment _ => true
  | .instruction _ _ => true
  | _ => false

/-- The root element of a document's tokens, nothing of it read yet. -/
def rootAt? : List Token → Option Element
  | .startTag name attributes tagEnd :: rest => do
    let root ← openElement? [] name attributes
    match tagEnd with
    | .closed => if rest.all isOutside then some root.close else none
    | .opening =>
      let (element, outside) ← readContent root [] rest
      if outside.all isOutside then some element else none
  | _ => none

/-- What stands before the root element is skipped. -/
def rootAfterProlog? : List Token → Option Element
  | .doctype :: rest => rootAfterProlog? rest
  | token :: rest => if isOutside token then rootAfterProlog? rest else rootAt? (token :: rest)
  | [] => none

/-- The root element of a text. -/
def parse? (text : String) : Option Element := do
  match afterDeclaration? text.toList with
  | some rest => rootAfterProlog? (← tokens? rest)
  | none =>
    match ← tokens? text.toList with
    | .doctype :: _ => none
    | tokens => rootAfterProlog? tokens

end RegistryClient.Xml

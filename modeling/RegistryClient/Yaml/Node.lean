/-!
# YAML nodes

The content of a YAML document.  A scalar keeps its text, escapes replaced and
lines folded, and how it is written: only a plain scalar may be read as nothing, and
only a plain one or a block with the tag for integers as a number.  A node may have a
tag, and an anchor by which an alias elsewhere in the document stands for it; anchors
and aliases are known by numbers.
-/

namespace RegistryClient.Yaml

/-- How a scalar is written. -/
inductive Style where
  | plain
  /-- As a block that keeps its line breaks. -/
  | literal
  /-- In quotes, or as a block whose line breaks are folded. -/
  | delimited
deriving DecidableEq, Repr

/-- What stands before the content of a node. -/
structure Properties where
  anchor : Option Nat
  tag : Option String
deriving DecidableEq, Repr, Inhabited

namespace Properties

/-- Nothing stands before the content. -/
def none : Properties := ⟨.none, .none⟩

def isNone (properties : Properties) : Bool :=
  properties.anchor.isNone && properties.tag.isNone

end Properties

/-- The content of a document or of a part of it. -/
inductive Node where
  | alias (number : Nat)
  | scalar (properties : Properties) (style : Style) (text : String)
  | sequence (properties : Properties) (items : List Node)
  | mapping (properties : Properties) (entries : List (Node × Node))
deriving Repr, Inhabited

namespace Node

/-- A place where nothing is written. -/
def empty : Node := .scalar .none .plain ""

/-- The text of a scalar. -/
def text? : Node → Option String
  | .scalar _ _ text => some text
  | _ => none

/-! ## Anchors -/

/-- A node under its number, when it has an anchor. -/
def underAnchor (properties : Properties) (node : Node) : List (Nat × Node) :=
  match properties.anchor with
  | some number => [(number, node)]
  | none => []

mutual

/-- The nodes with anchors, in the order in which they begin. -/
def anchored : Node → List (Nat × Node)
  | .alias _ => []
  | .scalar properties style text => underAnchor properties (.scalar properties style text)
  | .sequence properties items =>
    underAnchor properties (.sequence properties items) ++ anchoredItems items
  | .mapping properties entries =>
    underAnchor properties (.mapping properties entries) ++ anchoredEntries entries

/-- The nodes with anchors in the items of a sequence. -/
def anchoredItems : List Node → List (Nat × Node)
  | [] => []
  | item :: rest => item.anchored ++ anchoredItems rest

/-- The nodes with anchors in the entries of a mapping. -/
def anchoredEntries : List (Node × Node) → List (Nat × Node)
  | [] => []
  | (key, value) :: rest => key.anchored ++ value.anchored ++ anchoredEntries rest

end

end Node

/-! ## Numbers and nothing -/

/-- The tag of nodes that stand for integers. -/
def integerTag : String := "tag:yaml.org,2002:int"

/-- The text of a scalar that may be a numeral.  Of the scalars that are not plain
these are the blocks that keep their line breaks and have the tag for integers. -/
def Node.numeralText? : Node → Option String
  | .scalar _ .plain text => some text
  | .scalar properties .literal text => if properties.tag = some integerTag then some text else none
  | _ => none

/-- The words for nothing. -/
def nullWords : List String := ["~", "null", "Null", "NULL"]

/-- The tag of nodes that stand for nothing. -/
def nullTag : String := "tag:yaml.org,2002:null"

/-- The text of a scalar that may stand for nothing.  A plain scalar does when it is
empty or a word for nothing; with a tag only if that is the tag for nothing, and
then it has to be one of the words. -/
def Node.optionalText? : Node → Option (Option String)
  | .scalar properties .plain text =>
    match properties.tag with
    | none => some (if text = "" || nullWords.contains text then none else some text)
    | some tag =>
      if tag ≠ nullTag then some (some text)
      else if nullWords.contains text then some none
      else none
  | .scalar _ _ text => some (some text)
  | _ => none

end RegistryClient.Yaml

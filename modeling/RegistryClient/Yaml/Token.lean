import RegistryClient.Yaml.Node
import RegistryClient.Yaml.Tag

/-!
# Tokens of YAML text

The pieces of which a document is made up.  Some are written, and some are implied
by indentation: the start and the end of a collection that has no brackets, and
that what comes next is a key.
-/

namespace RegistryClient.Yaml

/-- A piece of a document. -/
inductive Token where
  | directive (directive : Directive)
  | marker (marker : Marker)
  /-- A sequence starts whose items have dashes. -/
  | sequenceStart
  /-- A mapping starts that has no brackets. -/
  | mappingStart
  /-- A collection without brackets ends. -/
  | blockEnd
  | openBracket
  | closeBracket
  | openBrace
  | closeBrace
  | comma
  /-- The dash of an item. -/
  | item
  | key
  | value
  | alias (number : Nat)
  | anchor (number : Nat)
  | tag (name : TagName)
  | scalar (style : Style) (text : String)
deriving DecidableEq, Repr

end RegistryClient.Yaml

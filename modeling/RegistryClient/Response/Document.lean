import RegistryClient.Xml.Decode
import RegistryClient.Xml.Document

/-!
# Response documents

A response is an XML text; its document is the decoded root element.
-/

namespace RegistryClient.Response

/-- The document of a response's text. -/
def parseDocument (text : String) : Except Fault Json :=
  match Xml.parse? text with
  | none => .error ResponseFault.notWellFormed.toFault
  | some root => root.toDocument.mapError ResponseFault.toFault

end RegistryClient.Response

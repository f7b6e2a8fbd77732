import RegistryClient.Proofs.Xml.Attributes
import RegistryClient.Proofs.Xml.Shape
import RegistryClient.Response.Document

/-!
# What the document of a response looks like

A response is a text, and its document is what the root element of the text is decoded to.  So
the document has whatever all decoded elements have: its keys are in order
(`ordered_of_parseDocument`), and its shape is the one that readers of documents rely on
(`document_has_shape`).
-/

namespace RegistryClient.Response

theorem parseDocument_eq_ok_iff {text : String} {document : Json} :
    parseDocument text = .ok document ↔
      ∃ root, Xml.parse? text = some root ∧ root.toDocument = .ok document := by
  unfold parseDocument
  cases Xml.parse? text with
  | none => simp
  | some root => simp [Outcome.mapError_eq_ok_iff]

/-- In the document of a response the keys of every object are in order. -/
theorem ordered_of_parseDocument {text : String} {document : Json}
    (h : parseDocument text = .ok document) : document.Ordered := by
  obtain ⟨root, -, hdocument⟩ := parseDocument_eq_ok_iff.mp h
  exact Xml.ordered_of_toDocument hdocument

/-- **Every decoded document has the same shape**: that of a root element whose names are not the
key of attributes, and that of any text at all, since no name that is read is that key. -/
theorem document_has_shape :
    (∀ (root : Xml.Element) (document : Json), root.SparesAttributesKey →
      root.toDocument = .ok document → Xml.DecodedShape root.name.localName document) ∧
    ∀ (text : String) (document : Json), parseDocument text = .ok document →
      ∃ root, Xml.parse? text = some root ∧ Xml.DecodedShape root.name.localName document := by
  refine ⟨fun root document => Xml.decodedShape_of_toDocument, fun text document h => ?_⟩
  obtain ⟨root, hroot, hdocument⟩ := parseDocument_eq_ok_iff.mp h
  have hnames := (Xml.wellNamed_of_parse? hroot).sparesAttributesKey
  exact ⟨root, hroot, Xml.decodedShape_of_toDocument hnames hdocument⟩

/-- What `Xml.mixedElement` is decoded to. -/
def mixedDocument : Json :=
  .object [("Title", .object [("$", .object [("lang", .string "en")]), ("Note", .string ""),
    ("Part", .array [.string "1", .string "2"]), ("value", .string "Up & away")])]

theorem document_has_shape_mixed :
    Xml.mixedElement.SparesAttributesKey ∧ Xml.mixedElement.toDocument = .ok mixedDocument ∧
      Xml.DecodedShape "Title" mixedDocument ∧
      Xml.parse? Xml.qualifiedText = some Xml.qualifiedElement ∧
      ∃ document, parseDocument Xml.qualifiedText = .ok document ∧
        Xml.DecodedShape "Name" document := by
  have hchildren : ∀ child ∈ Xml.mixedElement.children, child.children = [] ∧
      child.attributes = [] ∧ child.name.localName ≠ "$" :=
    List.forall_mem_cons.mpr ⟨⟨rfl, rfl, by decide⟩, List.forall_mem_cons.mpr
      ⟨⟨rfl, rfl, by decide⟩, List.forall_mem_singleton.mpr ⟨rfl, rfl, by decide⟩⟩⟩
  have hnames : Xml.mixedElement.SparesAttributesKey := by
    intro element hwithin
    cases hwithin with
    | self => exact ⟨by decide, List.forall_mem_singleton.mpr (by decide)⟩
    | child hchild hinner =>
        obtain ⟨hleaf, hplain, hname⟩ := hchildren _ hchild
        obtain rfl := hinner.eq_of_children_eq_nil hleaf
        exact ⟨hname, by simp [hplain]⟩
  have hmixed : Xml.mixedElement.toDocument = .ok mixedDocument := rfl
  have hread : ∃ document, parseDocument Xml.qualifiedText = .ok document := by
    rw [parseDocument, Xml.parse?_qualifiedText]
    exact ⟨_, rfl⟩
  obtain ⟨document, hdocument⟩ := hread
  obtain ⟨root, hroot, hshape⟩ := document_has_shape.2 _ document hdocument
  obtain rfl := Option.some.inj (hroot.symm.trans Xml.parse?_qualifiedText)
  exact ⟨hnames, hmixed, document_has_shape.1 _ _ hnames hmixed, hroot, document, hdocument, hshape⟩

end RegistryClient.Response

import RegistryClient.Proofs.Xml.Decode
import RegistryClient.Response.Document

/-!
# Which attributes decoding keeps

The attributes of an element stand under one key of its value, by their local names.  The
qualifier of a name is dropped, so two attributes with different names can have one local
name.  Then the last of them takes the place of the others (`get?_attributeFields`), and no
error is reported.

So the value tells all attributes of an element exactly when their local names are different:
`tellsAttributes_iff`.  That their names are different does not suffice
(`attribute_lost_of_qualifier`).
-/

namespace RegistryClient.Xml

/-! ## Attributes by local name -/

/-- The local names of attributes, in order. -/
def localNames (attributes : List Attribute) : List String :=
  attributes.map fun given => given.name.localName

/-- The last attribute with a local name. -/
def lastNamed? (name : String) (attributes : List Attribute) : Option Attribute :=
  attributes.reverse.find? fun given => given.name.localName = name

section Named

variable {name : String} {given : Attribute} {attributes : List Attribute}

theorem mem_of_lastNamed? (h : lastNamed? name attributes = some given) :
    given ∈ attributes ∧ given.name.localName = name := by
  unfold lastNamed? at h
  have hmem : given ∈ attributes.reverse := List.mem_of_find?_eq_some h
  have hname := List.find?_some h
  exact ⟨List.mem_reverse.mp hmem, of_decide_eq_true hname⟩

theorem exists_lastNamed? (h : given ∈ attributes) :
    ∃ last, lastNamed? given.name.localName attributes = some last := by
  rw [← Option.isSome_iff_exists, lastNamed?, List.find?_isSome]
  exact ⟨given, List.mem_reverse.mpr h, decide_eq_true rfl⟩

/-- Among different local names, the last attribute with a local name is the only one. -/
theorem lastNamed?_of_nodup (hnodup : (localNames attributes).Nodup) (h : given ∈ attributes) :
    lastNamed? given.name.localName attributes = some given := by
  obtain ⟨last, hlast⟩ := exists_lastNamed? h
  obtain ⟨hmem, hname⟩ := mem_of_lastNamed? hlast
  have heq : last = given := List.inj_on_of_nodup_map hnodup hmem h hname
  rw [hlast, heq]

end Named

/-! ## The fields of the attributes -/

section AttributeFields

variable {attributes : List Attribute}

theorem get?_map_localName (name : String) (attributes : List Attribute) :
    Fields.get? name (attributes.map fun given => (given.name.localName, .string given.value)) =
      (attributes.find? fun given => given.name.localName = name).map
        fun given => .string given.value := by
  induction attributes with
  | nil => rfl
  | cons given attributes ih =>
      by_cases hname : given.name.localName = name
      · rw [List.map_cons, hname, Fields.get?_cons_self,
          List.find?_cons_of_pos (by simpa using hname), Option.map_some]
      · rw [List.map_cons, Fields.get?_cons_of_ne hname, ih,
          List.find?_cons_of_neg (by simpa using hname)]

/-- Of several attributes with one local name the last is told. -/
theorem get?_attributeFields (name : String) :
    (attributeFields attributes).get? name =
      (lastNamed? name attributes).map fun given => .string given.value := by
  calc (attributeFields attributes).get? name
      = Fields.get? name (attributes.reverse.map fun given =>
          (given.name.localName, Json.string given.value)) := by
        rw [attributeFields, Fields.get?_ofList_reverse, List.map_reverse]
    _ = (lastNamed? name attributes).map fun given => .string given.value :=
        get?_map_localName name attributes.reverse

theorem map_fst_attributes :
    (attributes.map fun given => (given.name.localName, Json.string given.value)).map Prod.fst =
      localNames attributes := by
  rw [List.map_map]
  rfl

/-- There is one field for each local name. -/
theorem length_attributeFields :
    (attributeFields attributes).length = (localNames attributes).dedup.length := by
  rw [attributeFields, Fields.length_ofList, map_fst_attributes]

theorem length_attributeFields_eq_iff :
    (attributeFields attributes).length = attributes.length ↔ (localNames attributes).Nodup := by
  rw [← map_fst_attributes, ← Fields.length_ofList_eq_iff, List.length_map, attributeFields]

end AttributeFields

/-! ## The attributes in the value of an element -/

/-- The fields under the attribute key of a value. -/
def toldAttributes (value : Json) : Fields :=
  match value.get? "$" with
  | some (.object fields) => fields
  | _ => []

/-- Each attribute of the element stands in the value under its local name, and no other field
stands beside them. -/
def TellsAttributes (element : Element) (value : Json) : Prop :=
  (∀ given ∈ element.attributes,
    (toldAttributes value).get? given.name.localName = some (.string given.value)) ∧
    (toldAttributes value).length = element.attributes.length

theorem toldAttributes_elementFields {element : Element} {entries : List (String × Json)}
    (hentries : List.Forall₂ IsEntry element.children entries)
    (hnames : element.childrenNamed Response.attributesKey = []) :
    toldAttributes (.object (elementFields element.attributes entries element.text)) =
      attributeFields element.attributes := by
  have hnone : grouped (valuesNamed Response.attributesKey entries) = none := by
    rwa [grouped_eq_none_iff, valuesNamed_eq_nil_iff hentries]
  have hget : (Json.object (elementFields element.attributes entries element.text)).get? "$" =
      Fields.get? Response.attributesKey (ownPairs element.attributes element.text) := by
    show Fields.get? Response.attributesKey _ = _
    rw [get?_elementFields_of_entries hentries, hnone, Option.none_or]
  rw [toldAttributes, hget]
  by_cases hattributes : element.attributes = []
  · have hkeys : Response.attributesKey ≠ Record.valueKey := by decide
    have hown : Fields.get? Response.attributesKey (ownPairs element.attributes element.text) =
        none := by
      simp [Option.eq_none_iff_forall_ne_some, get?_ownPairs_eq_some_iff, hattributes, hkeys]
    rw [hown, hattributes]
    rfl
  · have hown : Fields.get? Response.attributesKey (ownPairs element.attributes element.text) =
        some (.object (attributeFields element.attributes)) :=
      get?_ownPairs_eq_some_iff.mpr (Or.inl ⟨hattributes, rfl, rfl⟩)
    rw [hown]

theorem toldAttributes_of_toJson {element : Element} {value : Json}
    (h : element.toJson = .ok value)
    (hnames : element.childrenNamed Response.attributesKey = []) :
    toldAttributes value = attributeFields element.attributes := by
  obtain ⟨entries, hentries, hvalue⟩ := toJson_eq_ok_iff.mp h
  rcases elementValue_eq_ok_iff.mp hvalue with ⟨hattributes, -, rfl⟩ | ⟨-, -, rfl⟩
  · rw [hattributes]
    rfl
  · exact toldAttributes_elementFields hentries hnames

theorem tellsAttributes_iff_nodup {element : Element} {value : Json}
    (htold : toldAttributes value = attributeFields element.attributes) :
    TellsAttributes element value ↔ (localNames element.attributes).Nodup := by
  rw [TellsAttributes, htold, length_attributeFields_eq_iff, and_iff_right_iff_imp]
  intro hnodup given hgiven
  rw [get?_attributeFields, lastNamed?_of_nodup hnodup hgiven, Option.map_some]

/-- **Which attributes are told**, at every element of a tree that is decoded: under each local
name the last attribute of that name, and all attributes exactly when their local names are
different.  The names of elements are not the key of their attributes. -/
theorem tellsAttributes_iff {root : Element} {document : Json} (h : root.toJson = .ok document)
    (hnames : ∀ element, Element.Within element root → element.name.localName ≠ "$") :
    ∀ element, Element.Within element root → ∃ value, element.toJson = .ok value ∧
      (∀ name, (toldAttributes value).get? name =
        (lastNamed? name element.attributes).map fun given => .string given.value) ∧
      (toldAttributes value).length = (localNames element.attributes).dedup.length ∧
      (TellsAttributes element value ↔ (localNames element.attributes).Nodup) := by
  intro element hwithin
  obtain ⟨value, hvalue⟩ := hwithin.exists_toJson h
  have hnone : element.childrenNamed Response.attributesKey = [] :=
    childrenNamed_attributesKey hnames hwithin
  have htold : toldAttributes value = attributeFields element.attributes :=
    toldAttributes_of_toJson hvalue hnone
  refine ⟨value, hvalue, fun name => ?_, ?_, tellsAttributes_iff_nodup htold⟩
  · rw [htold, get?_attributeFields]
  · rw [htold, length_attributeFields]

/-! ### Two attributes of one local name -/

/-- The attributes `lang` and `x:lang`. -/
def qualifiedAttributes : List Attribute :=
  [⟨⟨none, "lang"⟩, "en"⟩, ⟨⟨some "x", "lang"⟩, "fr"⟩]

def qualifiedElement : Element :=
  .mk ⟨none, "Name"⟩ qualifiedAttributes [.text "Up"]

/-- An element whose own attributes have different local names, around one whose have not. -/
def titledElement : Element :=
  .mk ⟨none, "Title"⟩ [⟨⟨none, "lang"⟩, "en"⟩, ⟨⟨some "x", "class"⟩, "release"⟩]
    [.element qualifiedElement]

theorem tellsAttributes_iff_titled :
    titledElement.toJson = .ok (.object
        [("$", .object [("class", .string "release"), ("lang", .string "en")]),
          ("Name", .object [("$", .object [("lang", .string "fr")]), ("value", .string "Up")])]) ∧
      (∀ element, Element.Within element titledElement → element.name.localName ≠ "$") ∧
      (∃ value, titledElement.toJson = .ok value ∧ TellsAttributes titledElement value) ∧
      ∃ value, qualifiedElement.toJson = .ok value ∧ ¬ TellsAttributes qualifiedElement value := by
  have hdecoded : titledElement.toJson = .ok (.object
      [("$", .object [("class", .string "release"), ("lang", .string "en")]),
        ("Name", .object [("$", .object [("lang", .string "fr")]), ("value", .string "Up")])]) :=
    rfl
  have hchild : qualifiedElement ∈ titledElement.children := List.mem_singleton.mpr rfl
  have hnames : ∀ element, Element.Within element titledElement →
      element.name.localName ≠ "$" := by
    intro element hwithin
    cases hwithin with
    | self => decide
    | child hmem hinner =>
        obtain rfl := List.mem_singleton.mp hmem
        obtain rfl := hinner.eq_of_children_eq_nil rfl
        decide
  have htold := tellsAttributes_iff hdecoded hnames
  refine ⟨hdecoded, hnames, ?_, ?_⟩
  · obtain ⟨value, hvalue, -, -, hiff⟩ := htold titledElement .self
    exact ⟨value, hvalue, hiff.mpr (by decide)⟩
  · obtain ⟨value, hvalue, -, -, hiff⟩ := htold qualifiedElement (.child hchild .self)
    exact ⟨value, hvalue, fun htells => absurd (hiff.mp htells) (by decide)⟩

/-- The text of `qualifiedElement`, with the declaration of the qualifier. -/
def qualifiedText : String :=
  "<Name xmlns:x=\"u\" lang=\"en\" x:lang=\"fr\">Up</Name>"

theorem openElement?_qualified :
    openElement? [] ⟨none, "Name"⟩ (⟨⟨some "xmlns", "x"⟩, "u"⟩ :: qualifiedAttributes) =
      some ⟨⟨none, "Name"⟩, qualifiedAttributes, ["xml", "x"], []⟩ := by
  have hsorted : qualifiedAttributes.mergeSort qualifierLe = qualifiedAttributes :=
    List.mergeSort_of_pairwise (by decide)
  have hkept : (⟨⟨some "xmlns", "x"⟩, "u"⟩ :: qualifiedAttributes).filter isKept =
      qualifiedAttributes := by decide
  rw [openElement?, hkept, hsorted]
  exact if_pos (by decide)

theorem parse?_qualifiedText : parse? qualifiedText = some qualifiedElement := by
  have hdeclaration : afterDeclaration? qualifiedText.toList = none := by decide +kernel
  have htokens : tokens? qualifiedText.toList = some
      [.startTag ⟨none, "Name"⟩ (⟨⟨some "xmlns", "x"⟩, "u"⟩ :: qualifiedAttributes) .opening,
        .text ['U', 'p'], .endTag ⟨none, "Name"⟩] :=
    rfl
  rw [parse?, hdeclaration, htokens]
  simp [rootAfterProlog?, isOutside, rootAt?, openElement?_qualified, readContent]
  rfl

/-- The two attributes of `qualifiedText` have different names, and it is decoded; `lang` itself
is gone. -/
theorem attribute_lost_of_qualifier :
    parse? qualifiedText = some qualifiedElement ∧
      (∀ element, Element.Within element qualifiedElement →
        (element.attributes.map Attribute.name).Nodup) ∧
      Response.parseDocument qualifiedText = .ok (.object [("Name", .object
        [("$", .object [("lang", .string "fr")]), ("value", .string "Up")])]) ∧
      ∃ value, qualifiedElement.toJson = .ok value ∧ ¬ TellsAttributes qualifiedElement value := by
  have hnames : ∀ element, Element.Within element qualifiedElement →
      (element.attributes.map Attribute.name).Nodup := by
    intro element hwithin
    obtain rfl := hwithin.eq_of_children_eq_nil rfl
    decide
  have hdocument : Response.parseDocument qualifiedText = .ok (.object [("Name", .object
      [("$", .object [("lang", .string "fr")]), ("value", .string "Up")])]) := by
    rw [Response.parseDocument, parse?_qualifiedText]
    rfl
  refine ⟨parse?_qualifiedText, hnames, hdocument, _, rfl, ?_⟩
  rintro ⟨-, hlength⟩
  exact absurd hlength (by decide)

end RegistryClient.Xml

import RegistryClient.Proofs.Json.Position
import RegistryClient.Proofs.Text.Words
import RegistryClient.Proofs.Xml.Decode
import RegistryClient.Proofs.Xml.Names

/-!
# The shape of decoded documents

Whoever reads a decoded document relies on its shape: one key at the top, texts, arrays of at
least two texts or objects, objects that are not empty, and under the key of the attributes an
object of texts.  `DecodedShape` says so of every position of a document.

`Shaped` is the invariant behind it: it holds of what every element is decoded to
(`shaped_of_toJson`), by one induction over elements, and is carried from there to every position
inside (`Shaped.of_at`).  Attributes are a case of their own, since their values are not trimmed.
An element called like their key would take their place, but no name that is read is that key.
-/

namespace RegistryClient.Xml

/-! ## What the shape is -/

/-- The shape of the document of a root element with this name, at each of its positions. -/
structure DecodedShape (name : String) (document : Json) : Prop where
  /-- The name of the root is the only key. -/
  root : ∃ value, document = .object [(name, value)]
  /-- There is no null, boolean or number. -/
  kinds : ∀ position value, document.At position value →
    (∃ text, value = .string text) ∨ (∃ items, value = .array items) ∨
      ∃ fields, value = .object fields
  /-- Arrays have at least two items, and these are texts and objects. -/
  arrays : ∀ position items, document.At position (.array items) →
    2 ≤ items.length ∧
      ∀ item ∈ items, (∃ text, item = .string text) ∨ ∃ fields, item = .object fields
  /-- No object is empty. -/
  objects : ∀ position fields, document.At position (.object fields) → fields ≠ []
  /-- Under the key of attributes stands an object of texts. -/
  attributes : ∀ position fields value, document.At position (.object fields) →
    ("$", value) ∈ fields → ∃ others, value = .object others ∧ others ≠ [] ∧
      ∀ other ∈ others, ∃ text, other.2 = .string text
  /-- Other texts neither begin nor end with a blank. -/
  texts : ∀ position text, document.At position (.string text) → .key "$" ∉ position →
    Text.IsTrimmed text

/-- An object of texts, none of them under the key of attributes. -/
def IsAttributeRecord (value : Json) : Prop :=
  ∃ fields, value = .object fields ∧ fields ≠ [] ∧
    ∀ field ∈ fields, field.1 ≠ "$" ∧ ∃ text, field.2 = .string text

/-- The shape of what elements are decoded to, and of several of them in an array. -/
inductive Shaped : Json → Prop where
  | text {text : String} : Text.IsTrimmed text → Shaped (.string text)
  | array {items : List Json} : 2 ≤ items.length → (∀ item ∈ items, item.isArray = false) →
      (∀ item ∈ items, Shaped item) → Shaped (.array items)
  | object {fields : Fields} : fields ≠ [] →
      (∀ field ∈ fields, field.1 = "$" → IsAttributeRecord field.2) →
      (∀ field ∈ fields, field.1 ≠ "$" → Shaped field.2) → Shaped (.object fields)

/-! ## Decoded values have the shape -/

/-- Neither the element nor anything in it is called like the key of attributes. -/
def Element.SparesAttributesKey (root : Element) : Prop :=
  ∀ element, Within element root → element.name.localName ≠ "$" ∧
    ∀ given ∈ element.attributes, given.name.localName ≠ "$"

theorem Element.WellNamed.sparesAttributesKey {root : Element} (h : root.WellNamed) :
    root.SparesAttributesKey := by
  intro element hwithin
  obtain ⟨hname, hattributes⟩ := h element hwithin
  exact ⟨hname.localName_ne, fun given hgiven => (hattributes given hgiven).localName_ne⟩

theorem isAttributeRecord_attributeFields {attributes : List Attribute} (hne : attributes ≠ [])
    (hnames : ∀ given ∈ attributes, given.name.localName ≠ "$") :
    IsAttributeRecord (.object (attributeFields attributes)) := by
  refine ⟨_, rfl, ?_, fun field hfield => ?_⟩
  · obtain ⟨given, others, rfl⟩ := List.exists_cons_of_ne_nil hne
    have hkey : given.name.localName ∈
        (attributeFields (given :: others)).map Prod.fst :=
      Fields.mem_keys_ofList_iff.mpr (List.mem_cons_self ..)
    exact List.ne_nil_of_mem (List.mem_map.mp hkey).choose_spec.1
  · obtain ⟨given, hgiven, rfl⟩ := List.mem_map.mp (Fields.mem_ofList hfield)
    exact ⟨hnames given hgiven, given.value, rfl⟩

/-- Attributes or child elements leave something in the fields of their element. -/
theorem elementFields_ne_nil {attributes : List Attribute} {entries : List (String × Json)}
    {text : String} (hnotArray : ∀ entry ∈ entries, entry.2.isArray = false)
    (hsome : attributes ≠ [] ∨ entries ≠ []) : elementFields attributes entries text ≠ [] := by
  intro hnil
  have hnone : ∀ key, grouped (valuesNamed key entries) = none ∧
      Fields.get? key (ownPairs attributes text) = none := by
    intro key
    rw [← Option.or_eq_none_iff, ← get?_elementFields hnotArray, hnil]
    rfl
  rcases hsome with hattributes | hentries
  · have hown : Fields.get? Response.attributesKey (ownPairs attributes text) =
        some (.object (attributeFields attributes)) :=
      get?_ownPairs_eq_some_iff.mpr (Or.inl ⟨hattributes, rfl, rfl⟩)
    rw [(hnone _).2] at hown
    cases hown
  · obtain ⟨⟨name, value⟩, others, rfl⟩ := List.exists_cons_of_ne_nil hentries
    have hvalues : valuesNamed name ((name, value) :: others) = [] :=
      grouped_eq_none_iff.mp (hnone name).1
    simp [valuesNamed] at hvalues

theorem shaped_elementFields {element : Element} {entries : List (String × Json)}
    (hentries : List.Forall₂ IsEntry element.children entries)
    (hsome : element.attributes ≠ [] ∨ entries ≠ [])
    (hattributes : ∀ given ∈ element.attributes, given.name.localName ≠ "$")
    (hnames : ∀ entry ∈ entries, entry.1 ≠ "$") (hshaped : ∀ entry ∈ entries, Shaped entry.2) :
    Shaped (.object (elementFields element.attributes entries element.text)) := by
  have hnotArray := isArray_of_mem_entries hentries
  -- each field is that of some child elements, of the attributes or of the text
  have hfields : ∀ field ∈ elementFields element.attributes entries element.text,
      (field.1 ≠ "$" ∧ Shaped field.2) ∨ (field.1 = "$" ∧ IsAttributeRecord field.2) := by
    rintro ⟨key, value⟩ hfield
    rcases Fields.mem_override hfield with hchild | hown
    · rcases mem_childFields hnotArray hchild with hlone | ⟨items, rfl, hlength, hitems⟩
      · exact Or.inl ⟨hnames _ hlone, hshaped _ hlone⟩
      · have hkey : key ≠ "$" := hnames (key, items[0]) (hitems _ (List.getElem_mem _))
        exact Or.inl ⟨hkey, .array hlength (fun item hitem => hnotArray _ (hitems item hitem))
          fun item hitem => hshaped _ (hitems item hitem)⟩
    · have hvalueKey : Record.valueKey ≠ "$" := by decide
      rcases mem_ownPairs_iff.mp (Fields.mem_ofList hown) with ⟨hsome, rfl, rfl⟩ | ⟨-, rfl, rfl⟩
      · exact Or.inr ⟨rfl, isAttributeRecord_attributeFields hsome hattributes⟩
      · exact Or.inl ⟨hvalueKey, .text (Text.isTrimmed_trim _)⟩
  refine .object (elementFields_ne_nil hnotArray hsome) ?_ ?_
  · intro field hfield hkey
    exact ((hfields field hfield).resolve_left fun h => h.1 hkey).2
  · intro field hfield hkey
    exact ((hfields field hfield).resolve_right fun h => hkey h.1).2

/-- Whatever an element is decoded to has the shape. -/
theorem shaped_of_toJson {element : Element} {value : Json} (hnames : element.SparesAttributesKey)
    (h : element.toJson = .ok value) : Shaped value := by
  induction element using Element.induct generalizing value with
  | step element ih =>
      obtain ⟨entries, hentries, hvalue⟩ := toJson_eq_ok_iff.mp h
      rcases elementValue_eq_ok_iff.mp hvalue with ⟨-, -, rfl⟩ | ⟨hsome, -, rfl⟩
      · exact .text (Text.isTrimmed_trim _)
      · refine shaped_elementFields hentries hsome (hnames element .self).2 ?_ ?_
        · intro entry hentry
          obtain ⟨child, hchild, his⟩ := exists_first_of_mem hentries hentry
          rw [his.2]
          exact (hnames child (.child hchild .self)).1
        · intro entry hentry
          obtain ⟨child, hchild, his⟩ := exists_first_of_mem hentries hentry
          exact ih child hchild (fun inner hinner => hnames inner (.child hchild hinner)) his.1

/-! ## The shape at every position -/

theorem IsAttributeRecord.of_at {tree value : Json} {position : Json.Position}
    (h : IsAttributeRecord tree) (hat : tree.At position value) :
    IsAttributeRecord value ∨ ∃ text, value = .string text := by
  obtain ⟨fields, rfl, hne, hfields⟩ := h
  cases hat with
  | here => exact Or.inl ⟨fields, rfl, hne, hfields⟩
  | key hmem hinner =>
      obtain ⟨-, text, htext⟩ := hfields _ hmem
      dsimp only at htext
      subst htext
      cases hinner
      exact Or.inr ⟨text, rfl⟩

/-- What lies in a value of the shape has the shape, or it belongs to attributes. -/
theorem Shaped.of_at {tree value : Json} {position : Json.Position} (h : Shaped tree)
    (hat : tree.At position value) :
    Shaped value ∨ .key "$" ∈ position ∧ (IsAttributeRecord value ∨ ∃ text, value = .string text) := by
  induction hat with
  | here => exact Or.inl h
  | item hitem _ ih =>
      cases h with
      | array _ _ hitems =>
          exact (ih (hitems _ (List.mem_of_getElem? hitem))).imp id
            (And.imp_left (List.mem_cons_of_mem _))
  | @key fields name entry value position hmem hinner ih =>
      cases h with
      | object _ hattributes hothers =>
          by_cases hname : name = "$"
          · subst hname
            exact Or.inr ⟨List.mem_cons_self .., (hattributes _ hmem rfl).of_at hinner⟩
          · exact (ih (hothers _ hmem hname)).imp id (And.imp_left (List.mem_cons_of_mem _))

theorem Shaped.kind {value : Json} (h : Shaped value) :
    (∃ text, value = .string text) ∨ (∃ items, value = .array items) ∨
      ∃ fields, value = .object fields := by
  cases h with
  | text => exact Or.inl ⟨_, rfl⟩
  | array => exact Or.inr (Or.inl ⟨_, rfl⟩)
  | object => exact Or.inr (Or.inr ⟨_, rfl⟩)

theorem Shaped.text_or_object {value : Json} (h : Shaped value) (hnotArray : value.isArray = false) :
    (∃ text, value = .string text) ∨ ∃ fields, value = .object fields := by
  rcases h.kind with htext | ⟨items, rfl⟩ | hobject
  · exact Or.inl htext
  · cases hnotArray
  · exact Or.inr hobject

section Positions

variable {tree : Json} {position : Json.Position}

theorem Shaped.kind_at {value : Json} (h : Shaped tree) (hat : tree.At position value) :
    (∃ text, value = .string text) ∨ (∃ items, value = .array items) ∨
      ∃ fields, value = .object fields := by
  rcases h.of_at hat with hshaped | ⟨-, ⟨fields, hfields, -⟩ | htext⟩
  · exact hshaped.kind
  · exact Or.inr (Or.inr ⟨fields, hfields⟩)
  · exact Or.inl htext

theorem Shaped.array_at {items : List Json} (h : Shaped tree)
    (hat : tree.At position (.array items)) :
    2 ≤ items.length ∧
      ∀ item ∈ items, (∃ text, item = .string text) ∨ ∃ fields, item = .object fields := by
  rcases h.of_at hat with hshaped | ⟨-, ⟨_, hfields, -⟩ | ⟨_, htext⟩⟩
  · cases hshaped with
    | array hlength hnotArray hitems =>
        exact ⟨hlength, fun item hitem => (hitems item hitem).text_or_object (hnotArray item hitem)⟩
  · cases hfields
  · cases htext

theorem Shaped.object_at {fields : Fields} (h : Shaped tree)
    (hat : tree.At position (.object fields)) :
    fields ≠ [] ∧ ∀ value, ("$", value) ∈ fields →
      ∃ others, value = .object others ∧ others ≠ [] ∧
        ∀ other ∈ others, ∃ text, other.2 = .string text := by
  rcases h.of_at hat with hshaped | ⟨-, ⟨_, hfields, hne, hothers⟩ | ⟨_, htext⟩⟩
  · cases hshaped with
    | object hne hattributes =>
        refine ⟨hne, fun value hmem => ?_⟩
        obtain ⟨others, rfl, hsome, hothers⟩ := hattributes _ hmem rfl
        exact ⟨others, rfl, hsome, fun other hother => (hothers other hother).2⟩
  · -- no attribute is called like the key of attributes
    obtain rfl := Json.object.inj hfields
    exact ⟨hne, fun value hmem => absurd rfl (hothers _ hmem).1⟩
  · cases htext

theorem Shaped.text_at {text : String} (h : Shaped tree) (hat : tree.At position (.string text))
    (houtside : .key "$" ∉ position) : Text.IsTrimmed text := by
  rcases h.of_at hat with hshaped | ⟨hinside, -⟩
  · cases hshaped with
    | text htrimmed => exact htrimmed
  · exact absurd hinside houtside

end Positions

theorem decodedShape_of_shaped {name : String} {value : Json} (hname : name ≠ "$")
    (h : Shaped value) : DecodedShape name (.object [(name, value)]) := by
  have hdocument : Shaped (.object [(name, value)]) :=
    .object (List.cons_ne_nil _ _)
      (List.forall_mem_singleton.mpr fun hkey => absurd hkey hname)
      (List.forall_mem_singleton.mpr fun _ => h)
  exact {
    root := ⟨value, rfl⟩
    kinds := fun _ _ => hdocument.kind_at
    arrays := fun _ _ => hdocument.array_at
    objects := fun _ _ hat => (hdocument.object_at hat).1
    attributes := fun _ _ inner hat => (hdocument.object_at hat).2 inner
    texts := fun _ _ => hdocument.text_at }

theorem decodedShape_of_toDocument {root : Element} {document : Json}
    (hnames : root.SparesAttributesKey) (h : root.toDocument = .ok document) :
    DecodedShape root.name.localName document := by
  obtain ⟨value, hvalue, rfl⟩ := toDocument_eq_ok_iff.mp h
  exact decodedShape_of_shaped (hnames root .self).1 (shaped_of_toJson hnames hvalue)

end RegistryClient.Xml

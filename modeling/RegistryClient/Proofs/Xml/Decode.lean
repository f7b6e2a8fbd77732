import Mathlib.Data.List.Induction
import RegistryClient.Proofs.Json.Fields
import RegistryClient.Proofs.Json.Flat
import RegistryClient.Proofs.Xml.Children

/-!
# What decoding keeps

Whatever stands in an element, its attributes, its child elements and its text, stands also in
the value that the element is decoded to, and nothing else does: `toJson_keeps_content`.

The child elements are added one after the other to the fields of the value, and what becomes
of one depends on how many of its name have been added before: none, one, or more.  What
stands under a name after each step is `grouped`, a function of all children of that name
so far; others do not touch it (`get?_childFields`).  No element is decoded to an array
(`isArray_of_toJson`), so an array under a name always means several children
(`mem_childFields`).

What texts have, and arrays and objects keep, every decoded value has (`Hereditary`): its arrays
are not nested, and the keys of its objects are in order.
-/

namespace RegistryClient.Xml

open Fields (Sorted)

/-! ## Children by name -/

/-- The values of the entries with a name, in order. -/
def valuesNamed (name : String) (entries : List (String × Json)) : List Json :=
  (entries.filter fun entry => entry.1 = name).map Prod.snd

/-- What stands for several values under one key: nothing for none, a lone value for
itself, and an array for more. -/
def grouped : List Json → Option Json
  | [] => none
  | [value] => some value
  | values => some (.array values)

/-- The values that stand under a key: the items of an array, or a lone value. -/
def listed : Json → List Json
  | .array items => items
  | single => [single]

theorem grouped_eq_none_iff {values : List Json} : grouped values = none ↔ values = [] := by
  cases values with
  | nil => simp [grouped]
  | cons first others => cases others <;> simp [grouped]

theorem grouped_eq_some_iff {values : List Json} {entry : Json} :
    grouped values = some entry ↔
      values = [entry] ∨ 2 ≤ values.length ∧ entry = .array values := by
  cases values with
  | nil => simp [grouped]
  | cons first others =>
      cases others with
      | nil => simp [grouped]
      | cons second others => simp [grouped, eq_comm]

theorem valuesNamed_append_self {name : String} {entries : List (String × Json)} {value : Json} :
    valuesNamed name (entries ++ [(name, value)]) = valuesNamed name entries ++ [value] := by
  simp [valuesNamed]

theorem valuesNamed_append_of_ne {name other : String} {entries : List (String × Json)}
    {value : Json} (hne : other ≠ name) :
    valuesNamed name (entries ++ [(other, value)]) = valuesNamed name entries := by
  simp [valuesNamed, hne]

theorem mem_of_mem_valuesNamed {name : String} {entries : List (String × Json)} {value : Json}
    (h : value ∈ valuesNamed name entries) : (name, value) ∈ entries := by
  obtain ⟨entry, hentry, rfl⟩ := List.mem_map.mp h
  obtain ⟨hmem, hname⟩ := List.mem_filter.mp hentry
  rw [← of_decide_eq_true hname]
  exact hmem

theorem childFields_append (entries : List (String × Json)) (entry : String × Json) :
    childFields (entries ++ [entry]) = addChild (childFields entries) entry := by
  rw [childFields, List.foldl_append]
  rfl

theorem get?_addChild_of_ne {fields : Fields} {key : String} {child : String × Json}
    (hne : key ≠ child.1) : (addChild fields child).get? key = fields.get? key := by
  unfold addChild
  split <;> exact Fields.get?_insert_of_ne hne

/-- A child joins the values that are already under its name. -/
theorem get?_addChild_self {fields : Fields} {name : String} {values : List Json} {value : Json}
    (hvalues : ∀ value ∈ values, value.isArray = false)
    (hfields : fields.get? name = grouped values) :
    (addChild fields (name, value)).get? name = grouped (values ++ [value]) := by
  unfold addChild
  rw [hfields]
  cases values with
  | nil => exact Fields.get?_insert_self
  | cons first others =>
      cases others with
      | nil =>
          have hfirst : first.isArray = false := hvalues first (List.mem_cons_self ..)
          cases first with
          | array items => cases hfirst
          | _ => exact Fields.get?_insert_self
      | cons second others => exact Fields.get?_insert_self

theorem get?_childFields {entries : List (String × Json)}
    (hentries : ∀ entry ∈ entries, entry.2.isArray = false) (name : String) :
    (childFields entries).get? name = grouped (valuesNamed name entries) := by
  -- from the end: the last child is added to the fields of those before it
  induction entries using List.reverseRecOn with
  | nil => rfl
  | append_singleton entries entry ih =>
      obtain ⟨hbefore, -⟩ := List.forall_mem_append.mp hentries
      obtain ⟨other, value⟩ := entry
      rw [childFields_append]
      by_cases hname : name = other
      · subst hname
        have hvalues : ∀ value ∈ valuesNamed name entries, value.isArray = false :=
          fun value hvalue => hbefore _ (mem_of_mem_valuesNamed hvalue)
        rw [get?_addChild_self hvalues (ih hbefore), valuesNamed_append_self]
      · rw [get?_addChild_of_ne hname, ih hbefore, valuesNamed_append_of_ne (Ne.symm hname)]

theorem sorted_childFields (entries : List (String × Json)) : Sorted (childFields entries) := by
  induction entries using List.reverseRecOn with
  | nil => exact Fields.sorted_nil
  | append_singleton entries entry ih =>
      rw [childFields_append, addChild]
      split <;> exact Fields.sorted_insert ih

/-- A field of the child elements is one of them, or an array of several. -/
theorem mem_childFields {entries : List (String × Json)}
    (hentries : ∀ entry ∈ entries, entry.2.isArray = false) {key : String} {value : Json}
    (h : (key, value) ∈ childFields entries) :
    (key, value) ∈ entries ∨
      ∃ items, value = .array items ∧ 2 ≤ items.length ∧ ∀ item ∈ items, (key, item) ∈ entries := by
  have hget := Fields.get?_eq_some_iff (sorted_childFields entries) |>.mpr h
  rw [get?_childFields hentries, grouped_eq_some_iff] at hget
  have hmem : ∀ item ∈ valuesNamed key entries, (key, item) ∈ entries :=
    fun item => mem_of_mem_valuesNamed
  rcases hget with hsingle | ⟨hlength, rfl⟩
  · exact .inl (hmem value (hsingle ▸ List.mem_singleton_self value))
  · exact .inr ⟨_, rfl, hlength, hmem⟩

/-! ## Attributes and text -/

/-- The attributes and the text of an element, each under its key if there is any. -/
def ownPairs (attributes : List Attribute) (text : String) : List (String × Json) :=
  (if attributes.isEmpty then []
    else [(Response.attributesKey, .object (attributeFields attributes))]) ++
    if text = "" then [] else [(Record.valueKey, .string text)]

theorem mem_ownPairs_iff {attributes : List Attribute} {text key : String} {value : Json} :
    (key, value) ∈ ownPairs attributes text ↔
      (attributes ≠ [] ∧ key = Response.attributesKey ∧
          value = .object (attributeFields attributes)) ∨
        text ≠ "" ∧ key = Record.valueKey ∧ value = .string text := by
  unfold ownPairs
  by_cases hattributes : attributes = []
  · by_cases htext : text = ""
    · simp [hattributes, htext]
    · simp [hattributes, htext]
  · by_cases htext : text = ""
    · simp [hattributes, htext]
    · simp [hattributes, htext]

theorem sorted_ownPairs (attributes : List Attribute) (text : String) :
    Sorted (ownPairs attributes text) := by
  have hkeys : Response.attributesKey < Record.valueKey := by decide
  unfold ownPairs
  split <;> split
  · exact Fields.sorted_nil
  · exact Fields.sorted_singleton
  · exact Fields.sorted_singleton
  · exact Fields.sorted_cons_iff.mpr ⟨List.forall_mem_singleton.mpr hkeys, Fields.sorted_singleton⟩

theorem get?_ownPairs_eq_some_iff {attributes : List Attribute} {text key : String}
    {value : Json} :
    Fields.get? key (ownPairs attributes text) = some value ↔
      (attributes ≠ [] ∧ key = Response.attributesKey ∧
          value = .object (attributeFields attributes)) ∨
        text ≠ "" ∧ key = Record.valueKey ∧ value = .string text := by
  rw [Fields.get?_eq_some_iff (sorted_ownPairs attributes text), mem_ownPairs_iff]

/-- The fields of an element that is decoded to an object: its own, and over them those of
its children. -/
def elementFields (attributes : List Attribute) (entries : List (String × Json)) (text : String) :
    Fields :=
  (Fields.ofList (ownPairs attributes text)).override (childFields entries)

theorem sorted_elementFields (attributes : List Attribute) (entries : List (String × Json))
    (text : String) : Sorted (elementFields attributes entries text) :=
  Fields.sorted_override (Fields.sorted_ofList _)

theorem get?_elementFields {attributes : List Attribute} {entries : List (String × Json)}
    {text : String} (hentries : ∀ entry ∈ entries, entry.2.isArray = false) (key : String) :
    (elementFields attributes entries text).get? key =
      (grouped (valuesNamed key entries)).or (Fields.get? key (ownPairs attributes text)) := by
  rw [elementFields, Fields.get?_override (sorted_childFields entries),
    get?_childFields hentries, Fields.get?_ofList (sorted_ownPairs attributes text)]

theorem elementValue_eq (localName : String) (attributes : List Attribute)
    (entries : List (String × Json)) (text : String) :
    elementValue localName attributes entries text =
      if attributes.isEmpty && entries.isEmpty then .ok (.string text)
      else if text ≠ "" ∧ ((childFields entries).get? Record.valueKey).isSome then
        .error (.textBesideValue localName)
      else .ok (.object (elementFields attributes entries text)) :=
  rfl

/-- An element is decoded to its text, or to its fields if nothing else takes the place of
its text. -/
theorem elementValue_eq_ok_iff {localName : String} {attributes : List Attribute}
    {entries : List (String × Json)} {text : String} {value : Json} :
    elementValue localName attributes entries text = .ok value ↔
      (attributes = [] ∧ entries = [] ∧ value = .string text) ∨
        (attributes ≠ [] ∨ entries ≠ []) ∧
          (text ≠ "" → (childFields entries).get? Record.valueKey = none) ∧
            value = .object (elementFields attributes entries text) := by
  have hfree : (text ≠ "" → (childFields entries).get? Record.valueKey = none) ↔
      ¬ (text ≠ "" ∧ ((childFields entries).get? Record.valueKey).isSome) := by
    rw [not_and, Bool.not_eq_true, Option.isSome_eq_false_iff, Option.isNone_iff_eq_none]
  rw [elementValue_eq, hfree]
  by_cases hplain : attributes = [] ∧ entries = []
  · obtain ⟨rfl, rfl⟩ := hplain
    simp only [List.isEmpty_nil, Bool.and_self, if_true, Except.ok.injEq, ne_eq, not_true,
      or_self, false_and, or_false, true_and]
    exact eq_comm
  · have hsome : attributes ≠ [] ∨ entries ≠ [] := by rwa [← not_and_or]
    have hnotText : ¬ (attributes.isEmpty && entries.isEmpty) = true := by simpa using hplain
    have hnoText : ¬ (attributes = [] ∧ entries = [] ∧ value = .string text) :=
      fun htext => hplain ⟨htext.1, htext.2.1⟩
    rw [if_neg hnotText, or_iff_right hnoText, and_iff_right hsome]
    by_cases hclash : text ≠ "" ∧ ((childFields entries).get? Record.valueKey).isSome
    · rw [if_pos hclash]
      simp [hclash]
    · rw [if_neg hclash, and_iff_right hclash, Except.ok.injEq, eq_comm]

/-! ## Elements -/

theorem Element.mem_childrenNamed_iff {name : String} {child element : Element} :
    child ∈ element.childrenNamed name ↔
      child ∈ element.children ∧ child.name.localName = name := by
  rw [Element.childrenNamed, List.mem_filter, decide_eq_true_iff]

theorem forall₂_childrenNamed {element : Element} {entries : List (String × Json)}
    (h : List.Forall₂ IsEntry element.children entries) (name : String) :
    List.Forall₂ (fun child value => child.toJson = .ok value) (element.childrenNamed name)
      (valuesNamed name entries) := by
  unfold Element.childrenNamed valuesNamed
  generalize element.children = children at h
  induction h with
  | nil => exact .nil
  | @cons child entry children entries hentry hrest ih =>
      by_cases hname : child.name.localName = name
      · have hother : entry.1 = name := hentry.2.trans hname
        rw [List.filter_cons_of_pos (by simpa using hname),
          List.filter_cons_of_pos (by simpa using hother), List.map_cons]
        exact .cons hentry.1 ih
      · have hother : entry.1 ≠ name := fun h => hname (hentry.2.symm.trans h)
        rw [List.filter_cons_of_neg (by simpa using hname),
          List.filter_cons_of_neg (by simpa using hother)]
        exact ih

theorem entries_eq_nil_iff {children : List Element} {entries : List (String × Json)}
    (h : List.Forall₂ IsEntry children entries) : entries = [] ↔ children = [] := by
  rw [← List.length_eq_zero_iff, ← h.length_eq, List.length_eq_zero_iff]

theorem text_or_object_of_toJson {element : Element} {value : Json}
    (h : element.toJson = .ok value) :
    (element.attributes = [] ∧ element.children = [] ∧ value = .string element.text) ∨
      (element.attributes ≠ [] ∨ element.children ≠ []) ∧ ∃ fields, value = .object fields := by
  obtain ⟨entries, hentries, hvalue⟩ := toJson_eq_ok_iff.mp h
  have hnil := entries_eq_nil_iff hentries
  rcases elementValue_eq_ok_iff.mp hvalue with ⟨hattributes, hnone, rfl⟩ | ⟨hsome, -, rfl⟩
  · exact .inl ⟨hattributes, hnil.mp hnone, rfl⟩
  · exact .inr ⟨hsome.imp id (mt hnil.mpr), _, rfl⟩

theorem isArray_of_toJson {element : Element} {value : Json} (h : element.toJson = .ok value) :
    value.isArray = false := by
  rcases text_or_object_of_toJson h with ⟨-, -, rfl⟩ | ⟨-, fields, rfl⟩ <;> rfl

theorem isArray_of_mem_entries {children : List Element} {entries : List (String × Json)}
    (h : List.Forall₂ IsEntry children entries) :
    ∀ entry ∈ entries, entry.2.isArray = false := by
  intro entry hentry
  obtain ⟨child, -, hchild⟩ := exists_first_of_mem h hentry
  exact isArray_of_toJson hchild.1

theorem toDocument_eq_ok_iff {root : Element} {document : Json} :
    root.toDocument = .ok document ↔
      ∃ value, root.toJson = .ok value ∧ document = .object [(root.name.localName, value)] := by
  rw [Element.toDocument, Outcome.bind_eq_ok_iff]
  constructor
  · rintro ⟨value, hvalue, hdocument⟩
    exact ⟨value, hvalue, (Except.ok.inj hdocument).symm⟩
  · rintro ⟨value, hvalue, rfl⟩
    exact ⟨value, hvalue, rfl⟩

/-! ### Properties of decoded values -/

/-- A property that every decoded value has: texts have it, and it is kept by the arrays and the
objects that decoding makes. -/
structure Hereditary (property : Json → Prop) : Prop where
  string : ∀ text, property (.string text)
  array : ∀ {items : List Json}, (∀ item ∈ items, item.isArray = false) →
    (∀ item ∈ items, property item) → property (.array items)
  object : ∀ {fields : Fields}, Sorted fields → (∀ field ∈ fields, property field.2) →
    property (.object fields)

section Hereditary

variable {property : Json → Prop} (hproperty : Hereditary property)
include hproperty

theorem Hereditary.of_attributeFields (attributes : List Attribute) :
    property (.object (attributeFields attributes)) := by
  apply hproperty.object (Fields.sorted_ofList _)
  intro field hfield
  obtain ⟨given, -, rfl⟩ := List.mem_map.mp (Fields.mem_ofList hfield)
  exact hproperty.string given.value

theorem Hereditary.of_elementFields {attributes : List Attribute} {entries : List (String × Json)}
    {text : String} (hnotArray : ∀ entry ∈ entries, entry.2.isArray = false)
    (hentries : ∀ entry ∈ entries, property entry.2) :
    property (.object (elementFields attributes entries text)) := by
  apply hproperty.object (sorted_elementFields attributes entries text)
  intro field hfield
  obtain ⟨key, value⟩ := field
  rcases Fields.mem_override hfield with hchild | hown
  · rcases mem_childFields hnotArray hchild with hlone | ⟨items, rfl, -, hitems⟩
    · exact hentries _ hlone
    · exact hproperty.array (fun item hitem => hnotArray _ (hitems item hitem))
        fun item hitem => hentries _ (hitems item hitem)
  · rcases mem_ownPairs_iff.mp (Fields.mem_ofList hown) with ⟨-, -, rfl⟩ | ⟨-, -, rfl⟩
    · exact hproperty.of_attributeFields attributes
    · exact hproperty.string text

theorem Hereditary.of_toJson {element : Element} {value : Json} (h : element.toJson = .ok value) :
    property value := by
  induction element using Element.induct generalizing value with
  | step element ih =>
      obtain ⟨entries, hentries, hvalue⟩ := toJson_eq_ok_iff.mp h
      rcases elementValue_eq_ok_iff.mp hvalue with ⟨-, -, rfl⟩ | ⟨-, -, rfl⟩
      · exact hproperty.string element.text
      · apply hproperty.of_elementFields (isArray_of_mem_entries hentries)
        intro entry hentry
        obtain ⟨child, hchild, his⟩ := exists_first_of_mem hentries hentry
        exact ih child hchild his.1

theorem Hereditary.of_toDocument {root : Element} {document : Json}
    (h : root.toDocument = .ok document) : property document := by
  obtain ⟨value, hvalue, rfl⟩ := toDocument_eq_ok_iff.mp h
  have hsorted : Sorted [(root.name.localName, value)] := Fields.sorted_singleton
  exact hproperty.object hsorted (List.forall_mem_singleton.mpr (hproperty.of_toJson hvalue))

end Hereditary

/-- No array has an array among its items. -/
theorem hereditary_flat : Hereditary Json.Flat where
  string _ := .scalar rfl
  array hnotArray hitems := .array hnotArray hitems
  object _ hfields := .object hfields

theorem flat_of_toDocument {root : Element} {document : Json}
    (h : root.toDocument = .ok document) : document.Flat :=
  hereditary_flat.of_toDocument h

/-- The keys of every object are in order. -/
theorem hereditary_ordered : Hereditary Json.Ordered where
  string _ := trivial
  array _ hitems := Json.ordered_array_iff.mpr hitems
  object hsorted hfields := Json.ordered_object_iff.mpr ⟨hsorted, hfields⟩

theorem ordered_of_toDocument {root : Element} {document : Json}
    (h : root.toDocument = .ok document) : document.Ordered :=
  hereditary_ordered.of_toDocument h

/-! ### What is kept -/

/-- What the fields of an object say about the element that they have been decoded from. -/
structure Keeps (element : Element) (fields : Fields) : Prop where
  /-- Each key stands once. -/
  sorted : Sorted fields
  /-- Under the local name of child elements stand the values of all child elements of that
  name, in document order; a lone one stands for itself. -/
  children : ∀ name, element.childrenNamed name ≠ [] → ∃ values entry,
    List.Forall₂ (fun child value => child.toJson = .ok value) (element.childrenNamed name)
        values ∧
      fields.get? name = some entry ∧ some entry = grouped values ∧ listed entry = values
  /-- The text of the element is there, unless it is blank. -/
  text : element.text ≠ "" → fields.get? "value" = some (.string element.text)
  /-- The attributes are there, if there are any. -/
  attributes : (∃ value, fields.get? "$" = some value) ↔ element.attributes ≠ []
  /-- Nothing else is there. -/
  nothingElse : ∀ key value, fields.get? key = some value →
    element.childrenNamed key ≠ [] ∨ (key = "value" ∧ element.text ≠ "") ∨ key = "$"

/-- A lone value is no array, so it is told from several values in one. -/
theorem listed_of_grouped {values : List Json} {entry : Json}
    (hvalues : ∀ value ∈ values, value.isArray = false) (h : grouped values = some entry) :
    listed entry = values := by
  rcases grouped_eq_some_iff.mp h with rfl | ⟨-, rfl⟩
  · have hentry : entry.isArray = false := hvalues entry (List.mem_singleton_self entry)
    cases entry with
    | array items => cases hentry
    | _ => rfl
  · rfl

section Fields

variable {element : Element} {entries : List (String × Json)}
  (hentries : List.Forall₂ IsEntry element.children entries)
include hentries

theorem valuesNamed_eq_nil_iff {name : String} :
    valuesNamed name entries = [] ↔ element.childrenNamed name = [] := by
  rw [← List.length_eq_zero_iff, ← (forall₂_childrenNamed hentries name).length_eq,
    List.length_eq_zero_iff]

theorem get?_elementFields_of_entries (key : String) :
    (elementFields element.attributes entries element.text).get? key =
      (grouped (valuesNamed key entries)).or
        (Fields.get? key (ownPairs element.attributes element.text)) :=
  get?_elementFields (isArray_of_mem_entries hentries) key

theorem exists_grouped {name : String} (hname : element.childrenNamed name ≠ []) :
    ∃ values entry, List.Forall₂ (fun child value => child.toJson = .ok value)
        (element.childrenNamed name) values ∧
      (elementFields element.attributes entries element.text).get? name = some entry ∧
      some entry = grouped values ∧ listed entry = values := by
  have hvalues := forall₂_childrenNamed hentries name
  have hne : grouped (valuesNamed name entries) ≠ none := by
    rwa [Ne, grouped_eq_none_iff, valuesNamed_eq_nil_iff hentries]
  obtain ⟨entry, hentry⟩ := Option.ne_none_iff_exists'.mp hne
  have hnotArray : ∀ value ∈ valuesNamed name entries, value.isArray = false :=
    fun value hvalue => isArray_of_mem_entries hentries _ (mem_of_mem_valuesNamed hvalue)
  refine ⟨_, entry, hvalues, ?_, hentry.symm, listed_of_grouped hnotArray hentry⟩
  rw [get?_elementFields_of_entries hentries, hentry]
  rfl

/-- Under a name that is no key of the element's own stand the values of the child elements
of that name. -/
theorem get?_elementFields_of_ne {name : String} (hattributes : name ≠ Response.attributesKey)
    (hvalue : name ≠ Record.valueKey) :
    (elementFields element.attributes entries element.text).get? name =
      grouped (valuesNamed name entries) := by
  have hown : Fields.get? name (ownPairs element.attributes element.text) = none := by
    simp [Option.eq_none_iff_forall_ne_some, get?_ownPairs_eq_some_iff, hattributes, hvalue]
  rw [get?_elementFields_of_entries hentries, hown, Option.or_none]

theorem get?_valueKey_elementFields (htext : element.text ≠ "")
    (hfree : (childFields entries).get? Record.valueKey = none) :
    (elementFields element.attributes entries element.text).get? Record.valueKey =
      some (.string element.text) := by
  have hnone : grouped (valuesNamed Record.valueKey entries) = none := by
    rw [← get?_childFields (isArray_of_mem_entries hentries), hfree]
  rw [get?_elementFields_of_entries hentries, hnone, Option.none_or, get?_ownPairs_eq_some_iff]
  exact Or.inr ⟨htext, rfl, rfl⟩

theorem keeps_elementFields
    (hfree : element.text ≠ "" → (childFields entries).get? Record.valueKey = none)
    (hnames : element.childrenNamed Response.attributesKey = []) :
    Keeps element (elementFields element.attributes entries element.text) := by
  have hget := get?_elementFields_of_entries hentries
  refine ⟨sorted_elementFields _ _ _, fun name => exists_grouped hentries, fun htext => ?_, ?_,
    fun key value hvalue => ?_⟩
  · exact get?_valueKey_elementFields hentries htext (hfree htext)
  · -- a child of that name would stand there in place of the attributes
    have hnone : grouped (valuesNamed Response.attributesKey entries) = none := by
      rwa [grouped_eq_none_iff, valuesNamed_eq_nil_iff hentries]
    have hkeys : Response.attributesKey ≠ Record.valueKey := by decide
    change (∃ value, Fields.get? Response.attributesKey _ = some value) ↔ _
    simp [hget, hnone, get?_ownPairs_eq_some_iff, hkeys]
  · rw [hget, Option.or_eq_some_iff, get?_ownPairs_eq_some_iff] at hvalue
    rcases hvalue with hvalue | ⟨-, ⟨-, hkey, -⟩ | ⟨htext, hkey, -⟩⟩
    · refine Or.inl fun hnil => ?_
      rw [(valuesNamed_eq_nil_iff hentries).mpr hnil] at hvalue
      cases hvalue
    · exact Or.inr (Or.inr hkey)
    · exact Or.inr (Or.inl ⟨hkey, htext⟩)

end Fields

/-- In the value of an element, the values of the child elements of one name stand under that
name; the name is none of the keys of the element's attributes and text. -/
theorem get?_of_toJson {element : Element} {value : Json} (h : element.toJson = .ok value)
    {name : String} (hattributes : name ≠ Response.attributesKey)
    (hvalue : name ≠ Record.valueKey) :
    ∃ values, List.Forall₂ (fun child value => child.toJson = .ok value)
      (element.childrenNamed name) values ∧ value.get? name = grouped values := by
  obtain ⟨entries, hentries, hdecoded⟩ := toJson_eq_ok_iff.mp h
  refine ⟨valuesNamed name entries, forall₂_childrenNamed hentries name, ?_⟩
  rcases elementValue_eq_ok_iff.mp hdecoded with ⟨-, rfl, rfl⟩ | ⟨-, -, rfl⟩
  · rfl
  · exact get?_elementFields_of_ne hentries hattributes hvalue

/-- Text is read back from the value of its element, bare or under its key. -/
theorem text_of_toJson {element : Element} {value : Json} (h : element.toJson = .ok value)
    (htext : element.text ≠ "") :
    value = .string element.text ∨ value.get? Record.valueKey = some (.string element.text) := by
  obtain ⟨entries, hentries, hdecoded⟩ := toJson_eq_ok_iff.mp h
  rcases elementValue_eq_ok_iff.mp hdecoded with ⟨-, -, rfl⟩ | ⟨-, hfree, rfl⟩
  · exact .inl rfl
  · exact .inr (get?_valueKey_elementFields hentries htext (hfree htext))

/-! ### Which elements are decoded -/

theorem exists_entries {children : List Element}
    (h : ∀ child ∈ children, ∃ value, child.toJson = .ok value) :
    ∃ entries, List.Forall₂ IsEntry children entries := by
  induction children with
  | nil => exact ⟨[], .nil⟩
  | cons child children ih =>
      obtain ⟨⟨value, hvalue⟩, hothers⟩ := List.forall_mem_cons.mp h
      obtain ⟨entries, hentries⟩ := ih hothers
      exact ⟨(child.name.localName, value) :: entries, .cons ⟨hvalue, rfl⟩ hentries⟩

/-- An element is decoded if its child elements are, and none of them takes the place of its
text. -/
theorem exists_toJson_iff {element : Element} :
    (∃ value, element.toJson = .ok value) ↔
      (∀ child ∈ element.children, ∃ value, child.toJson = .ok value) ∧
        (element.text ≠ "" → element.childrenNamed Record.valueKey = []) := by
  have hfree : ∀ {entries}, List.Forall₂ IsEntry element.children entries →
      ((childFields entries).get? Record.valueKey = none ↔
        element.childrenNamed Record.valueKey = []) := by
    intro entries hentries
    rw [get?_childFields (isArray_of_mem_entries hentries), grouped_eq_none_iff,
      valuesNamed_eq_nil_iff hentries]
  constructor
  · rintro ⟨value, hvalue⟩
    obtain ⟨entries, hentries, hdecoded⟩ := toJson_eq_ok_iff.mp hvalue
    refine ⟨fun child hchild => ?_, fun htext => ?_⟩
    · obtain ⟨entry, -, hentry⟩ := exists_second_of_mem hentries hchild
      exact ⟨entry.2, hentry.1⟩
    · rcases elementValue_eq_ok_iff.mp hdecoded with ⟨-, rfl, -⟩ | ⟨-, hnone, -⟩
      · exact (hfree hentries).mp rfl
      · exact (hfree hentries).mp (hnone htext)
  · rintro ⟨hchildren, hnone⟩
    obtain ⟨entries, hentries⟩ := exists_entries hchildren
    by_cases hplain : element.attributes = [] ∧ entries = []
    · exact ⟨_, toJson_eq_ok_iff.mpr ⟨entries, hentries,
        elementValue_eq_ok_iff.mpr (.inl ⟨hplain.1, hplain.2, rfl⟩)⟩⟩
    · have hsome : element.attributes ≠ [] ∨ entries ≠ [] := by rwa [← not_and_or]
      exact ⟨_, toJson_eq_ok_iff.mpr ⟨entries, hentries, elementValue_eq_ok_iff.mpr
        (.inr ⟨hsome, fun htext => (hfree hentries).mpr (hnone htext), rfl⟩)⟩⟩

/-- What an element is decoded to keeps what is in the element. -/
inductive Decoded (element : Element) : Json → Prop where
  /-- Without attributes and child elements, it is the element's text. -/
  | text : element.attributes = [] → element.children = [] → Decoded element (.string element.text)
  /-- Otherwise, it is an object with the element's children, attributes and text. -/
  | object {fields : Fields} : element.attributes ≠ [] ∨ element.children ≠ [] →
      Keeps element fields → Decoded element (.object fields)

theorem decoded_of_toJson {element : Element} {value : Json} (h : element.toJson = .ok value)
    (hnames : element.childrenNamed Response.attributesKey = []) : Decoded element value := by
  obtain ⟨entries, hentries, hvalue⟩ := toJson_eq_ok_iff.mp h
  have hnil := entries_eq_nil_iff hentries
  rcases elementValue_eq_ok_iff.mp hvalue with ⟨hattributes, hnone, rfl⟩ | ⟨hsome, hfree, rfl⟩
  · exact .text hattributes (hnil.mp hnone)
  · exact .object (hsome.imp id (mt hnil.mpr)) (keeps_elementFields hentries hfree hnames)

/-- No child element takes the place of the attributes, inside a tree without elements of the
name of their key. -/
theorem childrenNamed_attributesKey {element root : Element}
    (hnames : ∀ element, Element.Within element root → element.name.localName ≠ "$")
    (hwithin : Element.Within element root) :
    element.childrenNamed Response.attributesKey = [] := by
  rw [List.eq_nil_iff_forall_not_mem]
  intro child hchild
  obtain ⟨hmem, hname⟩ := Element.mem_childrenNamed_iff.mp hchild
  exact hnames child ((Element.Within.child hmem .self).trans hwithin) hname

/-- **Decoding keeps every child element and all text**, at every element of a tree that is
decoded; the names of elements are not the key of their attributes. -/
theorem toJson_keeps_content {root : Element} {document : Json} (h : root.toJson = .ok document)
    (hnames : ∀ element, Element.Within element root → element.name.localName ≠ "$") :
    ∀ element, Element.Within element root →
      ∃ value, element.toJson = .ok value ∧ Decoded element value := by
  intro element hwithin
  obtain ⟨value, hvalue⟩ := hwithin.exists_toJson h
  have hnone : element.childrenNamed Response.attributesKey = [] :=
    childrenNamed_attributesKey hnames hwithin
  exact ⟨value, hvalue, decoded_of_toJson hvalue hnone⟩

/-- An element with attributes, text in two pieces and two children of one name, another
child between them. -/
def mixedElement : Element :=
  .mk ⟨none, "Title"⟩ [⟨⟨none, "lang"⟩, "en"⟩]
    [.text " Up ", .element (.mk ⟨none, "Part"⟩ [] [.text "1"]), .comment "-",
      .element (.mk ⟨some "md", "Note"⟩ [] []), .cdata "& away ",
      .element (.mk ⟨some "md", "Part"⟩ [] [.cdata " 2"])]

theorem toJson_keeps_content_mixed :
    mixedElement.toJson = .ok (.object [("$", .object [("lang", .string "en")]),
        ("Note", .string ""), ("Part", .array [.string "1", .string "2"]),
        ("value", .string "Up & away")]) ∧
      (∀ element, Element.Within element mixedElement → element.name.localName ≠ "$") ∧
      ∀ element, Element.Within element mixedElement →
        ∃ value, element.toJson = .ok value ∧ Decoded element value := by
  have hdecoded : mixedElement.toJson = .ok (.object [("$", .object [("lang", .string "en")]),
      ("Note", .string ""), ("Part", .array [.string "1", .string "2"]),
      ("value", .string "Up & away")]) :=
    rfl
  have hnames : ∀ element, Element.Within element mixedElement →
      element.name.localName ≠ "$" := by
    intro element hwithin
    have hleaves : ∀ child ∈ mixedElement.children,
        child.children = [] ∧ child.name.localName ≠ "$" := by
      refine List.forall_mem_cons.mpr ⟨⟨rfl, by decide⟩, List.forall_mem_cons.mpr ⟨⟨rfl, ?_⟩, ?_⟩⟩
      · decide
      · exact List.forall_mem_singleton.mpr ⟨rfl, by decide⟩
    cases hwithin with
    | self => decide
    | child hchild hinner =>
        obtain ⟨hleaf, hname⟩ := hleaves _ hchild
        rwa [hinner.eq_of_children_eq_nil hleaf]
  exact ⟨hdecoded, hnames, toJson_keeps_content hdecoded hnames⟩

end RegistryClient.Xml

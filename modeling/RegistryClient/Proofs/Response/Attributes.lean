import RegistryClient.Proofs.Response.Page

/-!
# Attributes added to scalars

A status tells its code, details and type, and query results tell their count, as elements that
are read for their text.  `Marked` relates an element to itself with attributes added to such
scalars, anywhere in it.

Attributes never keep an element from being decoded (`Marked.exists_toJson`), and the values of
both elements have the same fields, each of them a lone value twice, an array twice or nothing
(`markedField_get?`).  A scalar with attributes is decoded to a record with its text, which is read
as the bare text is.  But a record has no blank text: an empty scalar reads as the empty text
without attributes, and as nothing with attributes.  That is the only difference
(`textAt?_marked`).
-/

namespace RegistryClient.Response

open Xml (Element Content Attribute Name)

/-! ## Adding attributes -/

/-- The elements that are read as scalars, by the name of the element around them and their own. -/
inductive IsScalar : String → String → Prop where
  | code : IsScalar "Status" "Code"
  | details : IsScalar "Status" "Details"
  | type : IsScalar "Status" "Type"
  | count (around : String) : IsScalar around "TotalMatches"

theorem IsScalar.name_ne {around name : String} (h : IsScalar around name) :
    name ≠ Record.valueKey ∧ name ≠ "QueryResults" := by
  cases h <;> decide

/-- The second content is the first one, perhaps with attributes added to scalars at any depth.
Elements of the kinds that are kept stay as they are, with all that is in them. -/
inductive MarkedContent (kept : String → String → Prop) :
    String → List Content → List Content → Prop where
  | nil {around : String} : MarkedContent kept around [] []
  | same {around : String} {piece : Content} {content others : List Content} :
      MarkedContent kept around content others →
        MarkedContent kept around (piece :: content) (piece :: others)
  | child {around : String} {name : Name} {attributes more : List Attribute}
      {inner otherInner content others : List Content} :
      ¬ kept around name.localName →
      more = attributes ∨ IsScalar around name.localName ∧ attributes.Sublist more →
      MarkedContent kept name.localName inner otherInner →
      MarkedContent kept around content others →
        MarkedContent kept around (.element (.mk name attributes inner) :: content)
          (.element (.mk name more otherInner) :: others)

/-- The same for elements, which stand in an element with the name given. -/
structure Marked (kept : String → String → Prop) (around : String) (first second : Element) :
    Prop where
  name_eq : second.name = first.name
  attributes : second.attributes = first.attributes ∨
    IsScalar around first.name.localName ∧ first.attributes.Sublist second.attributes
  content : MarkedContent kept first.name.localName first.content second.content
  unchanged : kept around first.name.localName → second = first

variable {kept : String → String → Prop} {around : String}

theorem markedContent_self (content : List Content) :
    MarkedContent kept around content content := by
  induction content with
  | nil => exact .nil
  | cons piece content ih => exact .same ih

theorem marked_self (element : Element) : Marked kept around element element :=
  ⟨rfl, Or.inl rfl, markedContent_self _, fun _ => rfl⟩

theorem MarkedContent.characters_eq {content others : List Content}
    (h : MarkedContent kept around content others) :
    others.filterMap Content.characters? = content.filterMap Content.characters? := by
  induction h with
  | nil => rfl
  | same _ ih => rw [List.filterMap_cons, List.filterMap_cons, ih]
  | child _ _ _ _ _ ih => exact ih

theorem MarkedContent.forall₂_children {content others : List Content}
    (h : MarkedContent kept around content others) :
    List.Forall₂ (Marked kept around) (content.filterMap Content.child?)
      (others.filterMap Content.child?) := by
  induction h with
  | nil => exact .nil
  | @same around piece content others _ ih =>
      cases piece with
      | element child => exact .cons (marked_self child) ih
      | _ => exact ih
  | child hkept hattributes hinner _ _ ih =>
      exact .cons ⟨rfl, hattributes, hinner, fun h => absurd h hkept⟩ ih

section Elements

variable {first second : Element} (h : Marked kept around first second)
include h

theorem Marked.text_eq : second.text = first.text := by
  unfold Element.text
  rw [h.content.characters_eq]

theorem Marked.forall₂_children :
    List.Forall₂ (Marked kept first.name.localName) first.children second.children :=
  h.content.forall₂_children

theorem Marked.forall₂_childrenNamed (name : String) :
    List.Forall₂ (Marked kept first.name.localName) (first.childrenNamed name)
      (second.childrenNamed name) := by
  refine List.rel_filter (fun child other hmarked => ?_) h.forall₂_children
  simp only [hmarked.name_eq]

theorem Marked.attributes_eq_nil (hsecond : second.attributes = []) : first.attributes = [] := by
  rcases h.attributes with hsame | ⟨-, hadded⟩
  · rw [← hsame, hsecond]
  · rw [hsecond] at hadded
    exact List.sublist_nil.mp hadded

theorem Marked.isScalar (hfirst : first.attributes = []) (hsecond : second.attributes ≠ []) :
    IsScalar around first.name.localName := by
  rcases h.attributes with hsame | ⟨hscalar, -⟩
  · rw [hsame] at hsecond
    exact absurd hfirst hsecond
  · exact hscalar

theorem Marked.children_eq_nil_iff : second.children = [] ↔ first.children = [] := by
  rw [← List.length_eq_zero_iff, ← h.forall₂_children.length_eq, List.length_eq_zero_iff]

theorem Marked.childrenNamed_eq_nil_iff (name : String) :
    second.childrenNamed name = [] ↔ first.childrenNamed name = [] := by
  rw [← List.length_eq_zero_iff, ← (h.forall₂_childrenNamed name).length_eq,
    List.length_eq_zero_iff]

theorem Marked.childrenNamed_eq {name : String} (hkept : kept first.name.localName name) :
    second.childrenNamed name = first.childrenNamed name := by
  have hnames : ∀ child ∈ first.childrenNamed name, child.name.localName = name := by
    intro child hchild
    exact (Element.mem_childrenNamed_iff.mp hchild).2
  have hboth := (List.forall₂_and_left _ _).mpr ⟨hnames, h.forall₂_childrenNamed name⟩
  have hsame : List.Forall₂ (· = ·) (first.childrenNamed name) (second.childrenNamed name) := by
    refine hboth.imp ?_
    rintro child other ⟨rfl, hmarked⟩
    exact (hmarked.unchanged hkept).symm
  exact (List.forall₂_eq_eq_eq ▸ hsame).symm

/-- Attributes never keep an element from being decoded. -/
theorem Marked.exists_toJson {value : Json} (hvalue : first.toJson = .ok value) :
    ∃ marked, second.toJson = .ok marked := by
  induction first using Element.induct generalizing around second value with
  | step first ih =>
      obtain ⟨hchildren, hfree⟩ := Xml.exists_toJson_iff.mp ⟨value, hvalue⟩
      refine Xml.exists_toJson_iff.mpr ⟨?_, ?_⟩
      · intro other hother
        obtain ⟨child, hchild, hmarked⟩ := Xml.exists_first_of_mem h.forall₂_children hother
        obtain ⟨inner, hinner⟩ := hchildren child hchild
        exact ih child hchild hmarked hinner
      · rw [h.text_eq, h.childrenNamed_eq_nil_iff]
        exact hfree

end Elements

/-! ## Fields -/

/-- What stands under a key for some elements, and for the same elements with attributes added:
nothing, the value of a lone element, or an array of several values. -/
inductive MarkedField (kept : String → String → Prop) (around : String) (children : List Element) :
    Option Json → Option Json → Prop where
  | missing : MarkedField kept around children none none
  | lone {child other : Element} {value marked : Json} : child ∈ children →
      Marked kept around child other → child.toJson = .ok value → other.toJson = .ok marked →
      MarkedField kept around children (some value) (some marked)
  | several {items others : List Json} :
      MarkedField kept around children (some (.array items)) (some (.array others))

theorem markedField_grouped {children others : List Element} {values marks : List Json}
    (h : List.Forall₂ (Marked kept around) children others)
    (hvalues : List.Forall₂ (fun child value => child.toJson = .ok value) children values)
    (hmarks : List.Forall₂ (fun child value => child.toJson = .ok value) others marks) :
    MarkedField kept around children (Xml.grouped values) (Xml.grouped marks) := by
  cases h with
  | nil =>
      cases hvalues
      cases hmarks
      exact .missing
  | cons hfirst hrest =>
      cases hvalues with
      | cons hvalue hvalues =>
          cases hmarks with
          | cons hmarked hmarks =>
              cases hrest with
              | nil =>
                  cases hvalues
                  cases hmarks
                  exact .lone (List.mem_cons_self ..) hfirst hvalue hmarked
              | cons _ _ =>
                  cases hvalues
                  cases hmarks
                  exact .several

section Decoded

variable {first second : Element} (h : Marked kept around first second) {value marked : Json}
  (hvalue : first.toJson = .ok value) (hmarked : second.toJson = .ok marked) {key : String}
include h hvalue hmarked

theorem markedField_get? (hkey : key ≠ attributesKey ∧ key ≠ Record.valueKey) :
    MarkedField kept first.name.localName (first.childrenNamed key) (value.get? key)
      (marked.get? key) := by
  obtain ⟨values, hvalues, hget⟩ := Xml.get?_of_toJson hvalue hkey.1 hkey.2
  obtain ⟨marks, hmarks, hgetMarked⟩ := Xml.get?_of_toJson hmarked hkey.1 hkey.2
  rw [hget, hgetMarked]
  exact markedField_grouped (h.forall₂_childrenNamed key) hvalues hmarks

theorem get?_eq_of_kept (hkey : key ≠ attributesKey ∧ key ≠ Record.valueKey)
    (hkept : kept first.name.localName key) : marked.get? key = value.get? key := by
  obtain ⟨values, hvalues, hget⟩ := Xml.get?_of_toJson hvalue hkey.1 hkey.2
  obtain ⟨marks, hmarks, hgetMarked⟩ := Xml.get?_of_toJson hmarked hkey.1 hkey.2
  rw [h.childrenNamed_eq hkept] at hmarks
  have hsame : values = marks := by
    refine List.right_unique_forall₂' ?_ hvalues hmarks
    intro child first second hfirst hsecond
    exact Except.ok.inj (hfirst.symm.trans hsecond)
  rw [hget, hgetMarked, hsame]

/-- Only a scalar can be an object with attributes and a text without. -/
theorem fields?_marked (hscalar : ¬ IsScalar around first.name.localName) :
    (fields? value = none ∧ fields? marked = none) ∨
      ∃ fields others, value = .object fields ∧ marked = .object others := by
  have hattributes : first.attributes = second.attributes := by
    rcases h.attributes with hsame | ⟨his, -⟩
    · exact hsame.symm
    · exact absurd his hscalar
  have hchildren := h.children_eq_nil_iff
  rcases Xml.text_or_object_of_toJson hvalue with ⟨hbare, hnone, rfl⟩ | ⟨hsome, fields, rfl⟩
  · rcases Xml.text_or_object_of_toJson hmarked with ⟨-, -, rfl⟩ | ⟨hsome, -⟩
    · exact Or.inl ⟨rfl, rfl⟩
    · exact absurd hsome (by simp [← hattributes, hbare, hchildren, hnone])
  · rcases Xml.text_or_object_of_toJson hmarked with ⟨hbare, hnone, -⟩ | ⟨-, others, rfl⟩
    · exact absurd hsome (by simp [hattributes, hbare, hchildren.mp hnone])
    · exact Or.inr ⟨fields, others, rfl, rfl⟩

end Decoded

/-! ## Scalars -/

/-- An element without text is read as the empty text when there is nothing in it, and otherwise
as its children called `value` are. -/
theorem scalarText?_of_blank {element : Element} {value : Json}
    (hdecoded : element.toJson = .ok value) (htext : element.text = "") :
    (element.attributes = [] ∧ element.children = [] ∧ value = .string "") ∨
      (element.attributes ≠ [] ∨ element.children ≠ []) ∧ ∃ values,
        List.Forall₂ (fun child value => child.toJson = .ok value)
            (element.childrenNamed Record.valueKey) values ∧
          scalarText? value = (Xml.grouped values).bind scalarText? := by
  obtain ⟨entries, hentries, hvalue⟩ := Xml.toJson_eq_ok_iff.mp hdecoded
  have hnil := Xml.entries_eq_nil_iff hentries
  rcases Xml.elementValue_eq_ok_iff.mp hvalue with ⟨hattributes, hnone, rfl⟩ | ⟨hsome, -, rfl⟩
  · exact Or.inl ⟨hattributes, hnil.mp hnone, by rw [htext]⟩
  · have hkeys : Record.valueKey ≠ attributesKey := by decide
    have hown :
        Fields.get? Record.valueKey (Xml.ownPairs element.attributes element.text) = none := by
      simp [Option.eq_none_iff_forall_ne_some, Xml.get?_ownPairs_eq_some_iff, htext, hkeys]
    refine Or.inr ⟨hsome.imp id (mt hnil.mpr), _,
      Xml.forall₂_childrenNamed hentries Record.valueKey, ?_⟩
    rw [scalarText?_object, Xml.get?_elementFields_of_entries hentries, hown, Option.or_none]

/-- Attributes leave the text of the element as it is, or the element is a scalar with nothing in
it, whose empty text is lost. -/
def ReadsAlike (kept : String → String → Prop) (around : String) (first : Element) : Prop :=
  ∀ {second : Element} {value marked : Json}, Marked kept around first second →
    first.toJson = .ok value → second.toJson = .ok marked →
      scalarText? marked = scalarText? value ∨
        IsScalar around first.name.localName ∧ value = .string "" ∧ scalarText? marked = none

theorem MarkedField.bind_scalarText? {children : List Element} {field marked : Option Json}
    (h : MarkedField kept around children field marked)
    (hchildren : ∀ child ∈ children, ReadsAlike kept around child) :
    marked.bind scalarText? = field.bind scalarText? ∨
      (∃ child ∈ children, IsScalar around child.name.localName) ∧
        field = some (.string "") ∧ marked.bind scalarText? = none := by
  cases h with
  | missing => exact Or.inl rfl
  | several => exact Or.inl rfl
  | @lone child _ _ _ hchild hmarks hvalue hmarked =>
      rcases hchildren child hchild hmarks hvalue hmarked with hsame | ⟨hscalar, rfl, hnone⟩
      · exact Or.inl hsame
      · exact Or.inr ⟨⟨child, hchild, hscalar⟩, rfl, hnone⟩

section Blank

variable {first second : Element} (h : Marked kept around first second) {value marked : Json}
  (hmarked : second.toJson = .ok marked) (hblank : first.text = "")
include h hmarked hblank

theorem scalarText?_of_bare (hattributes : first.attributes = []) (hchildren : first.children = []) :
    scalarText? marked = some "" ∨
      IsScalar around first.name.localName ∧ scalarText? marked = none := by
  have hempty : second.children = [] := h.children_eq_nil_iff.mpr hchildren
  rcases scalarText?_of_blank hmarked (h.text_eq.trans hblank) with
    ⟨-, -, rfl⟩ | ⟨hsome, marks, hmarks, hread⟩
  · exact Or.inl rfl
  · -- there is no child, so attributes have been added
    have hadded : second.attributes ≠ [] := hsome.resolve_right (not_not.mpr hempty)
    have hnone : second.childrenNamed Record.valueKey = [] := by
      simp [Element.childrenNamed, hempty]
    rw [hnone] at hmarks
    cases hmarks
    exact Or.inr ⟨h.isScalar hattributes hadded, hread⟩

theorem scalarText?_of_not_bare (hsome : first.attributes ≠ [] ∨ first.children ≠ [])
    {values : List Json} (hvalues : List.Forall₂ (fun child value => child.toJson = .ok value)
      (first.childrenNamed Record.valueKey) values)
    (hchildren : ∀ child ∈ first.childrenNamed Record.valueKey,
      ReadsAlike kept first.name.localName child) :
    scalarText? marked = (Xml.grouped values).bind scalarText? := by
  rcases scalarText?_of_blank hmarked (h.text_eq.trans hblank) with
    ⟨hnoAttributes, hnoChildren, -⟩ | ⟨-, marks, hmarks, hread⟩
  · rcases hsome with hne | hne
    · exact absurd (h.attributes_eq_nil hnoAttributes) hne
    · exact absurd (h.children_eq_nil_iff.mp hnoChildren) hne
  · have hfield := markedField_grouped (h.forall₂_childrenNamed Record.valueKey) hvalues hmarks
    rw [hread]
    rcases hfield.bind_scalarText? hchildren with hsame | ⟨⟨child, hchild, hscalar⟩, -⟩
    · exact hsame
    · -- no element called `value` is one of the scalars
      exact absurd (Element.mem_childrenNamed_iff.mp hchild).2 hscalar.name_ne.1

end Blank

theorem readsAlike (first : Element) : ReadsAlike kept around first := by
  induction first using Element.induct generalizing around with
  | step first ih =>
      intro second value marked h hvalue hmarked
      by_cases hblank : first.text = ""
      · rcases scalarText?_of_blank hvalue hblank with
          ⟨hattributes, hchildren, rfl⟩ | ⟨hsome, values, hvalues, hscalar⟩
        · rcases scalarText?_of_bare h hmarked hblank hattributes hchildren with hsame | ⟨his, hnone⟩
          · exact Or.inl hsame
          · exact Or.inr ⟨his, rfl, hnone⟩
        · left
          rw [hscalar]
          refine scalarText?_of_not_bare h hmarked hblank hsome hvalues fun child hchild => ?_
          exact ih child (Element.mem_childrenNamed_iff.mp hchild).1
      · have hother : second.text ≠ "" := h.text_eq ▸ hblank
        left
        rw [scalarText?_of_text hvalue hblank, scalarText?_of_text hmarked hother, h.text_eq]

theorem textAt?_of_empty {key : String} {value : Json} (h : value.get? key = some (.string "")) :
    textAt? key value = some "" := by
  rw [textAt?, h]
  rfl

section Texts

variable {first second : Element} (h : Marked kept around first second) {value marked : Json}
  (hvalue : first.toJson = .ok value) (hmarked : second.toJson = .ok marked) (key : String)
  (hkey : key ≠ attributesKey ∧ key ≠ Record.valueKey)
include h hvalue hmarked hkey

/-- **The text under a key is the same with attributes, unless it is empty and lost.** -/
theorem textAt?_marked : textAt? key marked = textAt? key value ∨
    value.get? key = some (.string "") ∧ textAt? key marked = none := by
  have hfield := markedField_get? h hvalue hmarked hkey
  rcases hfield.bind_scalarText? fun child _ => readsAlike child with hsame | ⟨-, hempty⟩
  · exact Or.inl hsame
  · exact Or.inr hempty

theorem textAt?_marked_iff {text : String} (hne : text ≠ "") :
    textAt? key marked = some text ↔ textAt? key value = some text := by
  rcases textAt?_marked h hvalue hmarked key hkey with hsame | ⟨hempty, hlost⟩
  · rw [hsame]
  · rw [hlost, textAt?_of_empty hempty]
    simp [hne.symm]

end Texts

end RegistryClient.Response

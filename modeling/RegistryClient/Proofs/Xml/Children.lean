import RegistryClient.Proofs.Outcome
import RegistryClient.Xml.Decode

/-!
# Child elements

The content of an element as its decoder sees it: the child elements in document order, and
the characters between them.  Comments and processing instructions are neither.

An element is decoded when all its child elements are, in document order
(`toJson_eq_ok_iff`), and what holds of an element when it holds of its child elements holds of
every element (`Element.induct`).
-/

namespace RegistryClient.Xml

/-! ## The content of an element -/

/-- The element that a piece of content is. -/
def Content.child? : Content → Option Element
  | .element child => some child
  | _ => none

/-- The characters that a piece of content is: text, or a CDATA section. -/
def Content.characters? : Content → Option String
  | .text characters => some characters
  | .cdata characters => some characters
  | _ => none

namespace Element

/-- The child elements, in document order. -/
def children (element : Element) : List Element :=
  element.content.filterMap Content.child?

/-- The child elements with a local name, in document order. -/
def childrenNamed (name : String) (element : Element) : List Element :=
  element.children.filter fun child => child.name.localName = name

/-- The element's own characters in document order, without blanks at the ends. -/
def text (element : Element) : String :=
  Text.trim (String.join (element.content.filterMap Content.characters?))

/-- The element is the other one or stands inside it, at any depth. -/
inductive Within : Element → Element → Prop where
  | self {element : Element} : Within element element
  | child {inner child element : Element} :
      child ∈ element.children → Within inner child → Within inner element

theorem Within.trans {inner middle outer : Element} (hinner : Within inner middle)
    (houter : Within middle outer) : Within inner outer := by
  induction houter with
  | self => exact hinner
  | child hchild _ ih => exact .child hchild ih

theorem Within.eq_of_children_eq_nil {inner element : Element} (h : Within inner element)
    (hnil : element.children = []) : inner = element := by
  cases h with
  | self => rfl
  | child hchild _ =>
      rw [hnil] at hchild
      cases hchild

/-- Induction over elements: of the child elements each one has the property. -/
@[elab_as_elim]
theorem induct {motive : Element → Prop}
    (step : ∀ element, (∀ child ∈ element.children, motive child) → motive element)
    (element : Element) : motive element := by
  -- of a piece of content the induction says something about the child element that it may be
  refine @Element.rec motive (fun piece => ∀ child, piece.child? = some child → motive child)
    (fun content => ∀ child ∈ content.filterMap Content.child?, motive child)
    ?element ?child ?text ?cdata ?comment ?instruction ?nil ?cons element
  case element => exact fun _ _ _ hcontent => step _ hcontent
  case child =>
    intro child hchild other hother
    obtain rfl := Option.some.inj hother
    exact hchild
  case text | cdata | comment | instruction => simp [Content.child?]
  case nil => simp
  case cons =>
    intro piece rest hpiece hrest child hchild
    obtain ⟨other, hother, hsome⟩ := List.mem_filterMap.mp hchild
    rcases List.mem_cons.mp hother with rfl | hother
    · exact hpiece child hsome
    · exact hrest child (List.mem_filterMap.mpr ⟨other, hother, hsome⟩)

end Element

theorem ownText_eq (content : List Content) :
    ownText content = Text.trim (String.join (content.filterMap Content.characters?)) := by
  have hjoin : String.join (content.map Content.ownText) =
      String.join (content.filterMap Content.characters?) := by
    induction content with
    | nil => rfl
    | cons piece rest ih =>
        rw [List.map_cons, String.join_cons, ih]
        cases piece with
        | text characters => exact String.join_cons.symm
        | cdata characters => exact String.join_cons.symm
        | _ => exact String.empty_append
  rw [ownText, hjoin]

/-! ## Decoding the child elements -/

/-- A child element as an entry of its parent's record: its local name and its value. -/
def Element.toEntry (child : Element) : Except ResponseFault (String × Json) :=
  child.toJson.map fun value => (child.name.localName, value)

/-- The entry that a child element is decoded to. -/
def IsEntry (child : Element) (entry : String × Json) : Prop :=
  child.toJson = .ok entry.2 ∧ entry.1 = child.name.localName

theorem toEntry_eq_ok_iff {child : Element} {entry : String × Json} :
    child.toEntry = .ok entry ↔ IsEntry child entry := by
  rw [Element.toEntry, Outcome.map_eq_ok_iff]
  constructor
  · rintro ⟨value, hvalue, rfl⟩
    exact ⟨hvalue, rfl⟩
  · rintro ⟨hvalue, hname⟩
    exact ⟨entry.2, hvalue, Prod.ext hname.symm rfl⟩

theorem childValues_eq_mapM (content : List Content) :
    childValues content = (content.filterMap Content.child?).mapM Element.toEntry := by
  induction content with
  | nil => rfl
  | cons piece rest ih =>
      cases piece with
      | element child =>
          have hchild : List.filterMap Content.child? (.element child :: rest) =
              child :: rest.filterMap Content.child? := rfl
          rw [hchild, List.mapM_cons, childValues, ih, Element.toEntry]
          cases child.toJson <;> rfl
      | _ => exact ih

/-- An element is decoded when all its child elements are. -/
theorem toJson_eq_ok_iff {element : Element} {value : Json} :
    element.toJson = .ok value ↔ ∃ entries, List.Forall₂ IsEntry element.children entries ∧
      elementValue element.name.localName element.attributes entries element.text =
        .ok value := by
  obtain ⟨name, attributes, content⟩ := element
  rw [Element.toJson, Outcome.bind_eq_ok_iff, childValues_eq_mapM, ownText_eq]
  simp only [Outcome.mapM_eq_ok_iff, toEntry_eq_ok_iff]
  rfl

section Related

variable {α β : Type} {Related : α → β → Prop} {firsts : List α} {seconds : List β}

theorem exists_second_of_mem (h : List.Forall₂ Related firsts seconds) {first : α}
    (hfirst : first ∈ firsts) : ∃ second ∈ seconds, Related first second := by
  induction h with
  | nil => cases hfirst
  | cons hrelated _ ih =>
      rcases List.mem_cons.mp hfirst with rfl | hfirst
      · exact ⟨_, List.mem_cons_self .., hrelated⟩
      · obtain ⟨second, hsecond, hrelated⟩ := ih hfirst
        exact ⟨second, List.mem_cons_of_mem _ hsecond, hrelated⟩

theorem exists_first_of_mem (h : List.Forall₂ Related firsts seconds) {second : β}
    (hsecond : second ∈ seconds) : ∃ first ∈ firsts, Related first second := by
  have hflipped : List.Forall₂ (flip Related) seconds firsts := List.Forall₂.flip h
  exact exists_second_of_mem hflipped hsecond

end Related

/-- Every element inside one that is decoded is decoded. -/
theorem Element.Within.exists_toJson {inner element : Element} (h : Within inner element)
    {value : Json} (hvalue : element.toJson = .ok value) :
    ∃ decoded, inner.toJson = .ok decoded := by
  induction h generalizing value with
  | self => exact ⟨value, hvalue⟩
  | child hchild hinner ih =>
      obtain ⟨entries, hentries, -⟩ := toJson_eq_ok_iff.mp hvalue
      obtain ⟨entry, -, hentry⟩ := exists_second_of_mem hentries hchild
      exact ih hentry.1

end RegistryClient.Xml

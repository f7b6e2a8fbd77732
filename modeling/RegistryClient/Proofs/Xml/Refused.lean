import RegistryClient.Proofs.FirstFault
import RegistryClient.Proofs.Text.Words
import RegistryClient.Proofs.Xml.Decode

/-!
# Which elements are refused

The text of an element stands under the key `value` of its record, and so do child elements of
that name.  An element that has both is refused, and no other one is: `toJson_refuses_exactly`.

Child elements are decoded before the element around them, and in document order.  So an element
is examined where it ends, and of several such elements the one that ends first is reported:
`Element.closingOrder` lists the elements of a tree in the order of their ends, and
`toJson_eq_error_iff` is the induction over the tree.
-/

namespace RegistryClient.Xml

/-! ## The order in which elements end -/

namespace Element

mutual

/-- The element and all inside it, in the order in which they end. -/
def closingOrder : Element → List Element
  | .mk name attributes content => closingOrderOf content ++ [.mk name attributes content]

/-- The elements inside some content, in the order in which they end. -/
def closingOrderOf : List Content → List Element
  | [] => []
  | .element child :: rest => child.closingOrder ++ closingOrderOf rest
  | _ :: rest => closingOrderOf rest

end

theorem closingOrderOf_eq_flatMap (content : List Content) :
    closingOrderOf content = (content.filterMap Content.child?).flatMap closingOrder := by
  induction content with
  | nil => rfl
  | cons piece rest ih =>
      cases piece with
      | element child =>
          have hchild : List.filterMap Content.child? (.element child :: rest) =
              child :: rest.filterMap Content.child? := rfl
          rw [hchild, List.flatMap_cons, closingOrderOf, ih]
      | _ => exact ih

/-- An element ends after its child elements. -/
theorem closingOrder_eq (element : Element) :
    element.closingOrder = element.children.flatMap closingOrder ++ [element] := by
  obtain ⟨name, attributes, content⟩ := element
  rw [closingOrder, closingOrderOf_eq_flatMap]
  rfl

theorem mem_closingOrder_iff {inner element : Element} :
    inner ∈ element.closingOrder ↔ Within inner element := by
  induction element using Element.induct with
  | step element ih =>
      rw [closingOrder_eq, List.mem_append, List.mem_flatMap, List.mem_singleton]
      constructor
      · rintro (⟨child, hchild, hinner⟩ | rfl)
        · exact .child hchild ((ih child hchild).mp hinner)
        · exact .self
      · intro h
        cases h with
        | self => exact Or.inr rfl
        | child hchild hinner => exact Or.inl ⟨_, hchild, (ih _ hchild).mpr hinner⟩

end Element

/-! ## What is wrong with an element -/

/-- The element has a character of its own that is no blank, in whatever piece of its text, and a
child element with the local name `value`. -/
def Element.HasTextBesideValue (element : Element) : Prop :=
  (∃ c ∈ (String.join (element.content.filterMap Content.characters?)).toList,
      Text.isBlank c = false) ∧
    ∃ child ∈ element.children, child.name.localName = "value"

/-- The element is refused for what it has itself, whatever is inside it. -/
def RefusedFor (element : Element) (fault : ResponseFault) : Prop :=
  element.HasTextBesideValue ∧ fault = .textBesideValue element.name.localName

theorem Element.text_ne_empty_iff {element : Element} :
    element.text ≠ "" ↔ ∃ c ∈ (String.join (element.content.filterMap Content.characters?)).toList,
      Text.isBlank c = false := by
  rw [Ne, Element.text, Text.trim_eq_empty_iff]
  simp only [not_forall, Bool.not_eq_true, exists_prop]

theorem Element.childrenNamed_ne_nil_iff {name : String} {element : Element} :
    element.childrenNamed name ≠ [] ↔ ∃ child ∈ element.children, child.name.localName = name := by
  rw [Ne, List.eq_nil_iff_forall_not_mem]
  simp only [Element.mem_childrenNamed_iff, not_forall, not_not]

theorem Element.hasTextBesideValue_iff {element : Element} :
    element.HasTextBesideValue ↔
      element.text ≠ "" ∧ element.childrenNamed Record.valueKey ≠ [] := by
  rw [Element.text_ne_empty_iff, Element.childrenNamed_ne_nil_iff]
  rfl

/-- Once the child elements are decoded, only the text of an element can be in the way. -/
theorem elementValue_eq_error_iff {element : Element} {entries : List (String × Json)}
    (hentries : List.Forall₂ IsEntry element.children entries) {fault : ResponseFault} :
    elementValue element.name.localName element.attributes entries element.text = .error fault ↔
      RefusedFor element fault := by
  have hclash : element.HasTextBesideValue ↔
      element.text ≠ "" ∧ ((childFields entries).get? Record.valueKey).isSome = true := by
    rw [Element.hasTextBesideValue_iff, get?_childFields (isArray_of_mem_entries hentries),
      Option.isSome_iff_ne_none, Ne, Ne, Ne, grouped_eq_none_iff, valuesNamed_eq_nil_iff hentries]
  rw [elementValue_eq, RefusedFor, hclash]
  by_cases hplain : (element.attributes.isEmpty && entries.isEmpty) = true
  · -- without child elements there is nothing beside the text
    obtain rfl : entries = [] := List.isEmpty_iff.mp (Bool.and_eq_true_iff.mp hplain).2
    rw [if_pos hplain]
    simp [childFields, Fields.get?]
  · rw [if_neg hplain]
    by_cases hrefused : element.text ≠ "" ∧
        ((childFields entries).get? Record.valueKey).isSome = true
    · rw [if_pos hrefused, and_iff_right hrefused, Except.error.injEq, eq_comm]
    · rw [if_neg hrefused]
      simp [hrefused]

/-! ## Refused trees -/

theorem toEntry_eq_error_iff {child : Element} {fault : ResponseFault} :
    child.toEntry = .error fault ↔ child.toJson = .error fault :=
  Outcome.map_eq_error_iff

/-- A tree is refused for the first of its elements, in the order in which they end, that has
both text and a child element called `value`. -/
theorem toJson_eq_error_iff {element : Element} {fault : ResponseFault} :
    element.toJson = .error fault ↔ FirstFault RefusedFor element.closingOrder fault := by
  induction element using Element.induct generalizing fault with
  | step element ih =>
      have hchildren : ∀ child ∈ element.children, ∀ cause,
          child.toEntry = .error cause ↔ FirstFault RefusedFor child.closingOrder cause :=
        fun child hchild cause => toEntry_eq_error_iff.trans (ih child hchild)
      have hfaults : ∀ cause, element.children.mapM Element.toEntry = .error cause ↔
          FirstFault RefusedFor (element.children.flatMap Element.closingOrder) cause :=
        fun cause => mapM_eq_error_iff hchildren
      have hown : (∃ entries, element.children.mapM Element.toEntry = .ok entries ∧
            elementValue element.name.localName element.attributes entries element.text =
              .error fault) ↔
          (∃ entries, element.children.mapM Element.toEntry = .ok entries) ∧
            RefusedFor element fault := by
        rw [← exists_and_right]
        refine exists_congr fun entries => and_congr_right fun hentries => ?_
        refine elementValue_eq_error_iff ((Outcome.mapM_eq_ok_iff.mp hentries).imp ?_)
        exact fun child entry => toEntry_eq_ok_iff.mp
      have hsteps : element.toJson = (element.children.mapM Element.toEntry >>= fun entries =>
          elementValue element.name.localName element.attributes entries element.text) := by
        obtain ⟨name, attributes, content⟩ := element
        rw [Element.toJson, childValues_eq_mapM, ownText_eq]
        rfl
      rw [hsteps, Outcome.bind_eq_error_iff, hown, hfaults,
        exists_eq_ok_iff_of_firstFault hfaults, Element.closingOrder_eq, firstFault_append_iff,
        firstFault_singleton_iff]

theorem exists_refusedFor_iff {element : Element} :
    (∃ fault, RefusedFor element fault) ↔ element.HasTextBesideValue := by
  simp only [RefusedFor, exists_and_left, exists_eq, and_true]

theorem exists_toJson_eq_error_iff {root : Element} :
    (∃ fault, root.toJson = .error fault) ↔
      ∃ element, Element.Within element root ∧ element.HasTextBesideValue := by
  simp only [toJson_eq_error_iff, exists_firstFault_iff, exists_refusedFor_iff,
    Element.mem_closingOrder_iff]

/-- The first refused element, with the elements that end before it. -/
theorem firstFault_closingOrder_iff {root : Element} {fault : ResponseFault} :
    FirstFault RefusedFor root.closingOrder fault ↔
      ∃ before element after, root.closingOrder = before ++ element :: after ∧
        (∀ earlier ∈ before, ¬ earlier.HasTextBesideValue) ∧ element.HasTextBesideValue ∧
        fault = .textBesideValue element.name.localName := by
  have hspared : ∀ element, (∀ cause, ¬ RefusedFor element cause) ↔
      ¬ element.HasTextBesideValue :=
    fun element => by rw [← not_exists, exists_refusedFor_iff]
  simp only [FirstFault, hspared]
  rfl

/-- **Which trees are refused.**  A tree is refused exactly when some element of it has both text
and a child element called `value`, for the first such element in the order in which they end;
every other tree is decoded. -/
theorem toJson_refuses_exactly :
    (∀ root : Element, (∃ fault, root.toJson = .error fault) ↔
      ∃ element, Element.Within element root ∧ element.HasTextBesideValue) ∧
    (∀ (root : Element) (fault : ResponseFault), root.toJson = .error fault ↔
      ∃ before element after, root.closingOrder = before ++ element :: after ∧
        (∀ earlier ∈ before, ¬ earlier.HasTextBesideValue) ∧ element.HasTextBesideValue ∧
        fault = .textBesideValue element.name.localName) ∧
    (∀ root : Element, (∃ value, root.toJson = .ok value) ↔
      ∀ element, Element.Within element root → ¬ element.HasTextBesideValue) ∧
    ∀ name : String, (ResponseFault.textBesideValue name).toFault =
      .unrecognizedResponse s!"element '{name}' has both text and a 'value' child" := by
  refine ⟨fun _ => exists_toJson_eq_error_iff,
    fun _ _ => toJson_eq_error_iff.trans firstFault_closingOrder_iff, fun root => ?_, fun _ => rfl⟩
  rw [Outcome.exists_eq_ok_iff, ← not_exists, exists_toJson_eq_error_iff]
  simp only [not_exists, not_and]

/-- An element with blank text before its child element and more text behind it. -/
def splitElement : Element :=
  .mk ⟨none, "Part"⟩ []
    [.text " \n", .element (.mk ⟨some "x", "value"⟩ [] []), .comment "-", .cdata "1 "]

/-- An element with text and a child element called `value`, around another such element. -/
def clashingElement : Element :=
  .mk ⟨none, "Title"⟩ []
    [.element (.mk ⟨none, "value"⟩ [] [.text "2"]), .element splitElement, .text "Up"]

/-- Both elements clash, and the inner one ends first. -/
theorem toJson_refuses_exactly_clashing :
    clashingElement.HasTextBesideValue ∧ splitElement.HasTextBesideValue ∧
      clashingElement.toJson = .error (.textBesideValue "Part") := by
  have houter : clashingElement.HasTextBesideValue :=
    ⟨⟨'U', by decide, by decide⟩, _, List.mem_cons_self .., rfl⟩
  have hinner : splitElement.HasTextBesideValue :=
    ⟨⟨'1', by decide, by decide⟩, _, List.mem_cons_self .., rfl⟩
  refine ⟨houter, hinner, (toJson_refuses_exactly.2.1 _ _).mpr ?_⟩
  refine ⟨[.mk ⟨none, "value"⟩ [] [.text "2"], .mk ⟨some "x", "value"⟩ [] []], splitElement,
    [clashingElement], rfl, ?_, hinner, rfl⟩
  rintro earlier hearlier ⟨-, child, hchild, -⟩
  have hleaf : earlier.children = [] := by
    rcases List.mem_pair.mp hearlier with rfl | rfl <;> rfl
  rw [hleaf] at hchild
  cases hchild

end RegistryClient.Xml

import Mathlib.Data.List.TakeWhile
import RegistryClient.Proofs.Xml.Children
import RegistryClient.Xml.Document

/-!
# The names in a document

Every name in an element that is read from a text is made of name characters: its own, those of
its attributes, and all names of the elements inside it (`wellNamed_of_parse?`).  The key under
which attributes stand in a decoded value is no such name, so no element and no attribute can be
called so.

The readers are followed from characters to tags, from tags to tokens, and then through the
content of an element: there each open element is well-named, the current one and those around
it, and so is whatever is closed and put into the one around it.
-/

namespace RegistryClient.Xml

/-! ## Names -/

/-- A character that may start a name, and after it characters that may stand in one. -/
def IsSimpleName (text : String) : Prop :=
  ∃ first others, text.toList = first :: others ∧ isNameStart first = true ∧
    ∀ c ∈ others, isNameChar c = true

/-- Both parts of the name are simple names. -/
structure Name.WellFormed (name : Name) : Prop where
  qualifier : ∀ qualifier, name.qualifier = some qualifier → IsSimpleName qualifier
  localName : IsSimpleName name.localName

section Readers

variable {chars rest : List Char}

theorem isSimpleName_of_readSimpleName {text : String}
    (h : readSimpleName chars = some (text, rest)) : IsSimpleName text := by
  cases chars with
  | nil => cases h
  | cons first others =>
      rw [readSimpleName] at h
      split at h
      · next hstart =>
        obtain ⟨rfl, -⟩ := Prod.mk.inj (Option.some.inj h)
        exact ⟨first, others.takeWhile isNameChar, String.toList_ofList, hstart,
          fun c hc => List.mem_takeWhile_imp hc⟩
      · cases h

theorem wellFormed_of_readName {name : Name} (h : readName chars = some (name, rest)) :
    name.WellFormed := by
  obtain ⟨⟨first, unread⟩, hfirst, h⟩ := Option.bind_eq_some_iff.mp h
  have hsimple := isSimpleName_of_readSimpleName hfirst
  dsimp only at h
  split at h
  · obtain ⟨⟨second, more⟩, hsecond, h⟩ := Option.bind_eq_some_iff.mp h
    cases h
    refine ⟨fun qualifier hqualifier => ?_, isSimpleName_of_readSimpleName hsecond⟩
    exact Option.some.inj hqualifier ▸ hsimple
  · cases h
    refine ⟨fun qualifier hqualifier => ?_, hsimple⟩
    cases hqualifier

/-! ## Tags and tokens -/

theorem wellFormed_of_readAttributes {fuel : Nat} {attributes : List Attribute} {tagEnd : TagEnd}
    (h : readAttributes fuel chars = some ((attributes, tagEnd), rest)) :
    ∀ given ∈ attributes, given.name.WellFormed := by
  induction fuel generalizing chars attributes tagEnd rest with
  | zero => cases h
  | succ fuel ih =>
      rw [readAttributes] at h
      split at h
      · cases h
        simp
      · cases h
        simp
      · obtain ⟨beforeName, -, h⟩ := Option.bind_eq_some_iff.mp h
        obtain ⟨⟨name, afterName⟩, hname, h⟩ := Option.bind_eq_some_iff.mp h
        obtain ⟨beforeValue, -, h⟩ := Option.bind_eq_some_iff.mp h
        obtain ⟨⟨value, unread⟩, -, h⟩ := Option.bind_eq_some_iff.mp h
        obtain ⟨⟨⟨others, othersEnd⟩, more⟩, hothers, h⟩ := Option.bind_eq_some_iff.mp h
        cases h
        exact List.forall_mem_cons.mpr ⟨wellFormed_of_readName hname, ih hothers⟩

/-- The names that a token brings into the tree. -/
def Token.names : Token → List Name
  | .startTag name attributes _ => name :: attributes.map Attribute.name
  | _ => []

theorem wellFormed_of_readStartTag {token : Token} (h : readStartTag chars = some (token, rest)) :
    ∀ name ∈ token.names, name.WellFormed := by
  obtain ⟨⟨name, unread⟩, hname, h⟩ := Option.bind_eq_some_iff.mp h
  obtain ⟨⟨⟨attributes, tagEnd⟩, more⟩, hattributes, h⟩ := Option.bind_eq_some_iff.mp h
  cases h
  refine List.forall_mem_cons.mpr ⟨wellFormed_of_readName hname, List.forall_mem_map.mpr ?_⟩
  exact wellFormed_of_readAttributes hattributes

theorem names_of_readInstruction {token : Token}
    (h : readInstruction chars = some (token, rest)) : token.names = [] := by
  obtain ⟨⟨target, afterTarget⟩, -, h⟩ := Option.bind_eq_some_iff.mp h
  dsimp only at h
  split at h
  · cases h
  · split at h
    · cases h
      rfl
    · obtain ⟨beforeData, -, h⟩ := Option.bind_eq_some_iff.mp h
      obtain ⟨⟨data, unread⟩, -, h⟩ := Option.bind_eq_some_iff.mp h
      cases h
      rfl

theorem names_of_readEndTag {token : Token} (h : readEndTag chars = some (token, rest)) :
    token.names = [] := by
  obtain ⟨⟨name, unread⟩, -, h⟩ := Option.bind_eq_some_iff.mp h
  obtain ⟨more, -, h⟩ := Option.bind_eq_some_iff.mp h
  cases h
  rfl

theorem names_of_readComment {token : Token} (h : readComment chars = some (token, rest)) :
    token.names = [] := by
  obtain ⟨⟨text, unread⟩, -, h⟩ := Option.bind_eq_some_iff.mp h
  obtain ⟨more, -, h⟩ := Option.bind_eq_some_iff.mp h
  cases h
  rfl

theorem names_of_readText {token : Token} (h : readText chars = some (token, rest)) :
    token.names = [] := by
  dsimp only [readText] at h
  split at h
  · cases h
  · cases h
    rfl

/-- Only start tags bring names. -/
theorem wellFormed_of_readToken {token : Token} (h : readToken chars = some (token, rest)) :
    ∀ name ∈ token.names, name.WellFormed := by
  have hnone : token.names = [] → ∀ name ∈ token.names, name.WellFormed := by
    intro hnames name hname
    rw [hnames] at hname
    cases hname
  unfold readToken at h
  split at h
  case h_1 => exact hnone (names_of_readInstruction h)
  case h_2 => exact hnone (names_of_readEndTag h)
  case h_3 =>
    apply hnone
    split at h
    · exact names_of_readComment h
    · obtain ⟨⟨text, unread⟩, -, htoken⟩ := Option.map_eq_some_iff.mp h
      cases htoken
      rfl
    · obtain ⟨unread, -, htoken⟩ := Option.map_eq_some_iff.mp h
      cases htoken
      rfl
    · cases h
  case h_4 => exact wellFormed_of_readStartTag h
  case h_5 => exact hnone (names_of_readText h)

theorem wellFormed_of_tokensWithin? {fuel : Nat} {tokens : List Token}
    (h : tokensWithin? fuel chars = some tokens) :
    ∀ token ∈ tokens, ∀ name ∈ token.names, name.WellFormed := by
  induction fuel generalizing chars tokens with
  | zero =>
      cases chars with
      | nil =>
          cases h
          simp
      | cons c more => cases h
  | succ fuel ih =>
      cases chars with
      | nil =>
          cases h
          simp
      | cons c more =>
          obtain ⟨⟨token, rest⟩, htoken, h⟩ := Option.bind_eq_some_iff.mp h
          obtain ⟨others, hothers, h⟩ := Option.bind_eq_some_iff.mp h
          cases h
          exact List.forall_mem_cons.mpr ⟨wellFormed_of_readToken htoken, ih hothers⟩

end Readers

/-! ## Elements -/

/-- All names in the element, of elements and of attributes, are well-formed. -/
def Element.WellNamed (root : Element) : Prop :=
  ∀ element, Within element root →
    element.name.WellFormed ∧ ∀ given ∈ element.attributes, given.name.WellFormed

/-- All names in the open element so far are well-formed. -/
structure OpenElement.WellNamed (current : OpenElement) : Prop where
  name : current.name.WellFormed
  attributes : ∀ given ∈ current.attributes, given.name.WellFormed
  content : ∀ piece ∈ current.content, ∀ child, piece.child? = some child → child.WellNamed

namespace OpenElement

variable {current : OpenElement}

theorem WellNamed.close (h : current.WellNamed) : current.close.WellNamed := by
  intro element hwithin
  cases hwithin with
  | self => exact ⟨h.name, h.attributes⟩
  | child hchild hinner =>
      obtain ⟨piece, hpiece, hsome⟩ := List.mem_filterMap.mp hchild
      exact h.content piece (List.mem_reverse.mp hpiece) _ hsome element hinner

theorem WellNamed.add {piece : Content} (h : current.WellNamed)
    (hpiece : ∀ child, piece.child? = some child → child.WellNamed) :
    (current.add piece).WellNamed :=
  ⟨h.name, h.attributes, List.forall_mem_cons.mpr ⟨hpiece, h.content⟩⟩

theorem WellNamed.add_element {child : Element} (h : current.WellNamed)
    (hchild : child.WellNamed) : (current.add (.element child)).WellNamed :=
  h.add fun _ hsome => Option.some.inj hsome ▸ hchild

end OpenElement

theorem wellNamed_of_openElement? {scope : List String} {name : Name}
    {attributes : List Attribute} {tagEnd : TagEnd} {current : OpenElement}
    (h : openElement? scope name attributes = some current)
    (hnames : ∀ given ∈ (Token.startTag name attributes tagEnd).names, given.WellFormed) :
    current.WellNamed := by
  obtain ⟨hname, hattributes⟩ := List.forall_mem_cons.mp hnames
  rw [List.forall_mem_map] at hattributes
  dsimp only [openElement?] at h
  split at h
  · cases h
    refine ⟨hname, fun given hgiven => ?_, by simp⟩
    exact hattributes given (List.mem_of_mem_filter (List.mem_mergeSort.mp hgiven))
  · cases h

/-- Whatever is open around the current element stays well-named, so the element that is closed
last is. -/
theorem wellNamed_of_readContent {current : OpenElement} {parents : List OpenElement}
    {tokens rest : List Token} {element : Element}
    (h : readContent current parents tokens = some (element, rest)) (hcurrent : current.WellNamed)
    (hparents : ∀ parent ∈ parents, parent.WellNamed)
    (htokens : ∀ token ∈ tokens, ∀ name ∈ token.names, name.WellFormed) : element.WellNamed := by
  fun_induction readContent current parents tokens with
  | case1 | case2 | case3 | case8 | case13 => cases h
  | case4 current parents _ _ _ _ ih | case5 current parents _ _ ih
  | case6 current parents _ _ ih | case7 current parents _ _ _ ih =>
      -- text, comments and instructions have no names
      obtain ⟨-, hrest⟩ := List.forall_mem_cons.mp htokens
      exact ih h (hcurrent.add (by simp [Content.child?])) hparents hrest
  | case9 current parents name attributes rest child hchild ih =>
      obtain ⟨hnames, hrest⟩ := List.forall_mem_cons.mp htokens
      have hnamed := wellNamed_of_openElement? hchild hnames
      exact ih h (hcurrent.add_element hnamed.close) hparents hrest
  | case10 current parents name attributes rest child hchild ih =>
      obtain ⟨hnames, hrest⟩ := List.forall_mem_cons.mp htokens
      have hnamed := wellNamed_of_openElement? hchild hnames
      exact ih h hnamed (List.forall_mem_cons.mpr ⟨hcurrent, hparents⟩) hrest
  | case11 current rest =>
      cases h
      exact hcurrent.close
  | case12 current rest parent further ih =>
      obtain ⟨-, hrest⟩ := List.forall_mem_cons.mp htokens
      obtain ⟨hparent, hfurther⟩ := List.forall_mem_cons.mp hparents
      exact ih h (hparent.add_element hcurrent.close) hfurther hrest

/-! ## Documents -/

theorem wellNamed_of_rootAt? {tokens : List Token} {root : Element}
    (h : rootAt? tokens = some root)
    (htokens : ∀ token ∈ tokens, ∀ name ∈ token.names, name.WellFormed) : root.WellNamed := by
  unfold rootAt? at h
  split at h
  · next name attributes tagEnd rest =>
    obtain ⟨current, hcurrent, h⟩ := Option.bind_eq_some_iff.mp h
    obtain ⟨hnames, hrest⟩ := List.forall_mem_cons.mp htokens
    have hnamed := wellNamed_of_openElement? hcurrent hnames
    cases tagEnd with
    | closed =>
        dsimp only at h
        split at h
        · cases h
          exact hnamed.close
        · cases h
    | opening =>
        obtain ⟨⟨element, outside⟩, helement, h⟩ := Option.bind_eq_some_iff.mp h
        dsimp only at h
        split at h
        · cases h
          exact wellNamed_of_readContent helement hnamed (by simp) hrest
        · cases h
  · cases h

theorem wellNamed_of_rootAfterProlog? {tokens : List Token} {root : Element}
    (h : rootAfterProlog? tokens = some root)
    (htokens : ∀ token ∈ tokens, ∀ name ∈ token.names, name.WellFormed) : root.WellNamed := by
  induction tokens with
  | nil => cases h
  | cons token rest ih =>
      obtain ⟨-, hrest⟩ := List.forall_mem_cons.mp htokens
      by_cases hdoctype : token = .doctype
      · subst hdoctype
        exact ih h hrest
      · rw [rootAfterProlog?] at h
        · split at h
          · exact ih h hrest
          · exact wellNamed_of_rootAt? h htokens
        · exact hdoctype

/-- All names in the root element of a text are well-formed. -/
theorem wellNamed_of_parse? {text : String} {root : Element} (h : parse? text = some root) :
    root.WellNamed := by
  unfold parse? at h
  split at h
  · obtain ⟨tokens, htokens, h⟩ := Option.bind_eq_some_iff.mp h
    exact wellNamed_of_rootAfterProlog? h (wellFormed_of_tokensWithin? htokens)
  · obtain ⟨tokens, htokens, h⟩ := Option.bind_eq_some_iff.mp h
    split at h
    · cases h
    · exact wellNamed_of_rootAfterProlog? h (wellFormed_of_tokensWithin? htokens)

/-! ## The key of the attributes -/

/-- The key under which attributes stand is not a name. -/
theorem not_isSimpleName_attributesKey : ¬ IsSimpleName "$" := by
  rintro ⟨first, others, hchars, hstart, -⟩
  obtain rfl : '$' = first := (List.cons.inj hchars).1
  exact absurd hstart (by decide)

theorem Name.WellFormed.localName_ne {name : Name} (h : name.WellFormed) :
    name.localName ≠ "$" := by
  intro hname
  exact not_isSimpleName_attributesKey (hname ▸ h.localName)

end RegistryClient.Xml

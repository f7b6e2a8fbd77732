import Mathlib.Logic.Relation
import RegistryClient.Proofs.Text.Words
import RegistryClient.Proofs.Xml.Decode

/-!
# Formatting of documents

The value of an element depends on its content and not on how it is written: elements that
differ in their formatting are decoded to one value, or are both refused
(`toJson_of_reformatted`).  A difference in formatting is made of single changes (`Reformats`),
each in one place at any depth: another qualifier, a comment, blanks between the child
elements, or child elements in another order as long as those of one name keep theirs.

An element is decoded from its attributes, its text and the values of its child elements.  A
change leaves the first two as they are.  It may exchange child elements, so their entries
change places, but under each name stand the same values as before (`DecodeAlike`); the fields
of the element are sorted, and what stands under a name determines them (`childFields_congr`).
Nothing more is kept: of two faults in one element the other may come first in the changed
one, so about refused elements it is only said that both are.
-/

namespace RegistryClient.Xml

/-! ## Changes of the formatting -/

/-- The piece is a comment or a processing instruction. -/
inductive Content.IsRemark : Content → Prop where
  | comment (characters : String) : IsRemark (.comment characters)
  | instruction (target data : String) : IsRemark (.instruction target data)

/-- If the piece is characters, they are blanks. -/
def Content.IsBlank (piece : Content) : Prop :=
  ∀ characters, piece.characters? = some characters → Text.isBlankText characters = true

/-- Nothing depends on which of the two comes first, the child element or the other piece: an
element with another local name, or characters. -/
inductive Passes (child : Element) : Content → Prop where
  | element {other : Element} : child.name.localName ≠ other.name.localName →
      Passes child (.element other)
  | characters {piece : Content} {characters : String} : piece.characters? = some characters →
      Passes child piece

/-- One change of the formatting, in the element itself or in one inside it. -/
inductive Reformats : Element → Element → Prop where
  /-- The name is written with another qualifier, or without one. -/
  | qualifier {name other : Name} {attributes : List Attribute} {content : List Content} :
      name.localName = other.localName →
      Reformats (.mk name attributes content) (.mk other attributes content)
  /-- A comment or a processing instruction is put anywhere. -/
  | remark {name : Name} {attributes : List Attribute} {before after : List Content}
      {piece : Content} : piece.IsRemark →
      Reformats (.mk name attributes (before ++ after))
        (.mk name attributes (before ++ piece :: after))
  /-- Blanks are put where all characters of the element are blanks. -/
  | blanks {name : Name} {attributes : List Attribute} {before after : List Content}
      {piece : Content} {characters : String} : piece.characters? = some characters →
      (∀ own ∈ before ++ piece :: after, own.IsBlank) →
      Reformats (.mk name attributes (before ++ after))
        (.mk name attributes (before ++ piece :: after))
  /-- A text is cut in two, as by a comment that is put into it. -/
  | cut {name : Name} {attributes : List Attribute} {before after : List Content}
      {first second : String} :
      Reformats (.mk name attributes (before ++ .text (first ++ second) :: after))
        (.mk name attributes (before ++ .text first :: .text second :: after))
  /-- A child element is moved past the piece after it. -/
  | move {name : Name} {attributes : List Attribute} {before after : List Content}
      {child : Element} {piece : Content} : Passes child piece →
      Reformats (.mk name attributes (before ++ .element child :: piece :: after))
        (.mk name attributes (before ++ piece :: .element child :: after))
  /-- A child element is changed. -/
  | child {name : Name} {attributes : List Attribute} {before after : List Content}
      {child other : Element} : Reformats child other →
      Reformats (.mk name attributes (before ++ .element child :: after))
        (.mk name attributes (before ++ .element other :: after))

/-- The elements differ by any number of changes of the formatting, made or undone. -/
def Reformatted : Element → Element → Prop :=
  Relation.EqvGen Reformats

theorem Reformats.localName_eq {first second : Element} (h : Reformats first second) :
    first.name.localName = second.name.localName := by
  cases h with
  | qualifier hname => exact hname
  | _ => rfl

/-! ## Entries up to their order -/

theorem valuesNamed_cons {name : String} {entry : String × Json}
    {entries : List (String × Json)} :
    valuesNamed name (entry :: entries) =
      if entry.1 = name then entry.2 :: valuesNamed name entries
      else valuesNamed name entries := by
  by_cases hname : entry.1 = name
  · simp [valuesNamed, hname]
  · simp [valuesNamed, hname]

theorem childFields_congr {entries others : List (String × Json)}
    (hentries : ∀ entry ∈ entries, entry.2.isArray = false)
    (hothers : ∀ entry ∈ others, entry.2.isArray = false)
    (h : ∀ name, valuesNamed name entries = valuesNamed name others) :
    childFields entries = childFields others := by
  refine (sorted_childFields entries).ext (sorted_childFields others) fun name => ?_
  rw [get?_childFields hentries, get?_childFields hothers, h]

theorem eq_nil_of_valuesNamed {entries : List (String × Json)}
    (h : ∀ name, valuesNamed name entries = []) : entries = [] := by
  cases entries with
  | nil => rfl
  | cons entry entries =>
      have hnone := h entry.1
      rw [valuesNamed_cons, if_pos rfl] at hnone
      cases hnone

/-- If the first elements are decoded, so are the others, to the same values under each
name. -/
def DecodeAlike (children others : List Element) : Prop :=
  ∀ entries, List.Forall₂ IsEntry children entries → ∃ decoded,
    List.Forall₂ IsEntry others decoded ∧
      ∀ name, valuesNamed name entries = valuesNamed name decoded

theorem decodeAlike_refl (children : List Element) : DecodeAlike children children :=
  fun entries hentries => ⟨entries, hentries, fun _ => rfl⟩

theorem DecodeAlike.append_left {children others : List Element} (h : DecodeAlike children others)
    (before : List Element) : DecodeAlike (before ++ children) (before ++ others) := by
  induction before with
  | nil => exact h
  | cons first before ih =>
      intro entries hentries
      obtain ⟨entry, rest, hentry, hrest, rfl⟩ := List.forall₂_cons_left_iff.mp hentries
      obtain ⟨decoded, hdecoded, hsame⟩ := ih rest hrest
      refine ⟨entry :: decoded, .cons hentry hdecoded, fun name => ?_⟩
      rw [valuesNamed_cons, valuesNamed_cons, hsame]

theorem decodeAlike_swap {first second : Element}
    (hne : first.name.localName ≠ second.name.localName) (after : List Element) :
    DecodeAlike (first :: second :: after) (second :: first :: after) := by
  intro entries hentries
  obtain ⟨entry, more, hentry, hmore, rfl⟩ := List.forall₂_cons_left_iff.mp hentries
  obtain ⟨next, rest, hnext, hrest, rfl⟩ := List.forall₂_cons_left_iff.mp hmore
  refine ⟨next :: entry :: rest, .cons hnext (.cons hentry hrest), fun name => ?_⟩
  have hkeys : entry.1 ≠ next.1 := by rwa [hentry.2, hnext.2]
  simp only [valuesNamed_cons]
  by_cases hname : entry.1 = name
  · -- only one of the two values stands under any name
    have hother : next.1 ≠ name := fun h => hkeys (hname.trans h.symm)
    rw [if_pos hname, if_neg hother, if_neg hother, if_pos hname]
  · rw [if_neg hname, if_neg hname]

theorem decodeAlike_cons {child other : Element}
    (hname : child.name.localName = other.name.localName)
    (hvalue : ∀ value, child.toJson = .ok value → other.toJson = .ok value)
    (after : List Element) : DecodeAlike (child :: after) (other :: after) := by
  intro entries hentries
  obtain ⟨entry, rest, hentry, hrest, rfl⟩ := List.forall₂_cons_left_iff.mp hentries
  have hother : IsEntry other entry := ⟨hvalue _ hentry.1, hentry.2.trans hname⟩
  exact ⟨entry :: rest, .cons hother hrest, fun _ => rfl⟩

/-! ## Elements with the same content -/

/-- The second element has the attributes and the text of the first one, and its child elements
are decoded if those of the first one are, to the same values under each name. -/
structure SameContent (first second : Element) : Prop where
  attributes : first.attributes = second.attributes
  text : first.text = second.text
  children : DecodeAlike first.children second.children

theorem SameContent.toJson {first second : Element} (h : SameContent first second) {value : Json}
    (hvalue : first.toJson = .ok value) : second.toJson = .ok value := by
  obtain ⟨entries, hentries, hfirst⟩ := toJson_eq_ok_iff.mp hvalue
  obtain ⟨others, hothers, hsame⟩ := h.children entries hentries
  have hfields : childFields entries = childFields others :=
    childFields_congr (isArray_of_mem_entries hentries) (isArray_of_mem_entries hothers) hsame
  have hnil : entries = [] ↔ others = [] := by
    constructor
    · rintro rfl
      exact eq_nil_of_valuesNamed fun name => (hsame name).symm
    · rintro rfl
      exact eq_nil_of_valuesNamed hsame
  refine toJson_eq_ok_iff.mpr ⟨others, hothers, elementValue_eq_ok_iff.mpr ?_⟩
  have hcases := elementValue_eq_ok_iff.mp hfirst
  unfold elementFields at hcases ⊢
  rwa [hfields, ne_eq entries, hnil, h.attributes, h.text] at hcases

section Content

variable (name : Name) (attributes : List Attribute) (content : List Content)

theorem text_mk : (Element.mk name attributes content).text =
    Text.trim (String.join (content.filterMap Content.characters?)) :=
  rfl

theorem children_mk : (Element.mk name attributes content).children =
    content.filterMap Content.child? :=
  rfl

end Content

section Changed

variable {name : Name} {attributes : List Attribute}

theorem child?_eq_none {piece : Content} {characters : String}
    (h : piece.characters? = some characters) : piece.child? = none := by
  cases piece with
  | element child => cases h
  | _ => rfl

theorem text_of_blank {content : List Content} (h : ∀ piece ∈ content, piece.IsBlank) :
    (Element.mk name attributes content).text = "" := by
  rw [text_mk, Text.trim_eq_empty_iff, String.toList_join]
  intro c hc
  obtain ⟨characters, hcharacters, hmem⟩ := List.mem_flatMap.mp hc
  obtain ⟨piece, hpiece, hown⟩ := List.mem_filterMap.mp hcharacters
  exact List.all_eq_true.mp (h piece hpiece characters hown) c hmem

/-- Part of the content is changed, and what comes before it is kept. -/
theorem sameContent_middle (before : List Content) {middle others after : List Content}
    (hchildren : DecodeAlike ((middle ++ after).filterMap Content.child?)
      ((others ++ after).filterMap Content.child?))
    (htext : String.join (middle.filterMap Content.characters?) =
      String.join (others.filterMap Content.characters?)) :
    SameContent (.mk name attributes (before ++ (middle ++ after)))
      (.mk name attributes (before ++ (others ++ after))) where
  attributes := rfl
  text := by
    simp only [text_mk, List.filterMap_append, String.join_append, htext]
  children := by
    have happend : ∀ rest : List Content, (Element.mk name attributes (before ++ rest)).children =
        before.filterMap Content.child? ++ rest.filterMap Content.child? := fun _ =>
      List.filterMap_append
    rw [happend, happend]
    exact hchildren.append_left _

theorem sameContent_of_eq (before : List Content) {middle others after : List Content}
    (hchildren : middle.filterMap Content.child? = others.filterMap Content.child?)
    (htext : String.join (middle.filterMap Content.characters?) =
      String.join (others.filterMap Content.characters?)) :
    SameContent (.mk name attributes (before ++ (middle ++ after)))
        (.mk name attributes (before ++ (others ++ after))) ∧
      SameContent (.mk name attributes (before ++ (others ++ after)))
        (.mk name attributes (before ++ (middle ++ after))) := by
  have hall : (middle ++ after).filterMap Content.child? =
      (others ++ after).filterMap Content.child? := by
    rw [List.filterMap_append, List.filterMap_append, hchildren]
  exact ⟨sameContent_middle before (hall ▸ decodeAlike_refl _) htext,
    sameContent_middle before (hall ▸ decodeAlike_refl _) htext.symm⟩

/-- Blanks among blanks are trimmed, however many there are. -/
theorem sameContent_of_blank {before after : List Content} {piece : Content} {characters : String}
    (hpiece : piece.characters? = some characters)
    (hblank : ∀ own ∈ before ++ piece :: after, own.IsBlank) :
    SameContent (.mk name attributes (before ++ after))
        (.mk name attributes (before ++ piece :: after)) ∧
      SameContent (.mk name attributes (before ++ piece :: after))
        (.mk name attributes (before ++ after)) := by
  have hrest : ∀ own ∈ before ++ after, own.IsBlank := fun own hown =>
    hblank own (List.mem_append.mpr ((List.mem_append.mp hown).imp id (List.mem_cons_of_mem _)))
  have htext : (Element.mk name attributes (before ++ after)).text =
      (Element.mk name attributes (before ++ piece :: after)).text :=
    (text_of_blank hrest).trans (text_of_blank hblank).symm
  have hchildren : (Element.mk name attributes (before ++ after)).children =
      (Element.mk name attributes (before ++ piece :: after)).children := by
    rw [children_mk, children_mk, List.filterMap_append, List.filterMap_append,
      List.filterMap_cons_none (child?_eq_none hpiece)]
  exact ⟨⟨rfl, htext, hchildren ▸ decodeAlike_refl _⟩,
    ⟨rfl, htext.symm, hchildren ▸ decodeAlike_refl _⟩⟩

theorem sameContent_swap (before after : List Content) {first second : Element}
    (hne : first.name.localName ≠ second.name.localName) :
    SameContent (.mk name attributes (before ++ .element first :: .element second :: after))
      (.mk name attributes (before ++ .element second :: .element first :: after)) :=
  @sameContent_middle _ _ before [.element first, .element second]
    [.element second, .element first] after (decodeAlike_swap hne _) rfl

theorem sameContent_child (before after : List Content) {child other : Element}
    (hname : child.name.localName = other.name.localName) (h : SameContent child other) :
    SameContent (.mk name attributes (before ++ .element child :: after))
      (.mk name attributes (before ++ .element other :: after)) :=
  @sameContent_middle _ _ before [.element child] [.element other] after
    (decodeAlike_cons hname (fun _ => h.toJson) _) rfl

end Changed

/-! ## Decoding changed elements -/

theorem Reformats.sameContent {first second : Element} (h : Reformats first second) :
    SameContent first second ∧ SameContent second first := by
  -- into a child element: as its value is kept, so is the entry that it adds
  induction h with
  | qualifier => exact ⟨⟨rfl, rfl, decodeAlike_refl _⟩, ⟨rfl, rfl, decodeAlike_refl _⟩⟩
  | @remark name attributes before after piece hpiece =>
      cases hpiece with
      | comment => exact @sameContent_of_eq _ _ before [] [_] after rfl rfl
      | instruction => exact @sameContent_of_eq _ _ before [] [_] after rfl rfl
  | blanks hpiece hblank => exact sameContent_of_blank hpiece hblank
  | @cut name attributes before after first second =>
      have htext : String.join [first ++ second] = String.join [first, second] := by
        simp [String.join_cons]
      exact @sameContent_of_eq _ _ before [_] [_, _] after rfl htext
  | @move name attributes before after child piece hpasses =>
      cases hpasses with
      | element hne => exact ⟨sameContent_swap _ _ hne, sameContent_swap _ _ hne.symm⟩
      | characters hpiece =>
          cases piece with
          | text | cdata => exact @sameContent_of_eq _ _ before [_, _] [_, _] after rfl rfl
          | element | comment | instruction => cases hpiece
  | child hchange ih =>
      have hname := hchange.localName_eq
      exact ⟨sameContent_child _ _ hname ih.1, sameContent_child _ _ hname.symm ih.2⟩

/-- Elements that differ in their formatting are decoded to the same value, if one of them is. -/
theorem Reformatted.toJson_eq_ok_iff {first second : Element} (h : Reformatted first second)
    {value : Json} : first.toJson = .ok value ↔ second.toJson = .ok value := by
  induction h with
  | rel first second hchange =>
      obtain ⟨hforth, hback⟩ := hchange.sameContent
      exact ⟨hforth.toJson, hback.toJson⟩
  | refl element => exact Iff.rfl
  | symm first second _ ih => exact ih.symm
  | trans first second third _ _ hfirst hsecond => exact hfirst.trans hsecond

/-- **Decoding depends on content, not on formatting**: after any number of changes, an element
is decoded to the same value as before, or refused as before. -/
theorem toJson_of_reformatted {first second : Element} (h : Reformatted first second) :
    (∃ value, first.toJson = .ok value ∧ second.toJson = .ok value) ∨
      (∃ fault, first.toJson = .error fault) ∧ ∃ fault, second.toJson = .error fault := by
  cases hfirst : first.toJson with
  | ok value => exact .inl ⟨value, rfl, h.toJson_eq_ok_iff.mp hfirst⟩
  | error fault =>
      refine .inr ⟨⟨fault, rfl⟩, ?_⟩
      cases hsecond : second.toJson with
      | ok value =>
          rw [h.toJson_eq_ok_iff.mpr hsecond] at hfirst
          cases hfirst
      | error other => exact ⟨other, rfl⟩

/-- A part with the given content. -/
def partElement (content : List Content) : Element :=
  .mk ⟨none, "Part"⟩ [] content

/-- A title with a note, and a part after it that has the given content. -/
def titleElement (content : List Content) : Element :=
  .mk ⟨some "md", "Title"⟩ [] [.text "\n  ", .element (.mk ⟨none, "Note"⟩ [] []), .text "\n  ",
    .element (partElement content)]

/-- A title on one line, without qualifier and with the note at the end. -/
def compactElement : Element :=
  .mk ⟨none, "Title"⟩ []
    [.element (partElement [.text "12"]), .element (.mk ⟨none, "Note"⟩ [] [])]

theorem toJson_of_reformatted_title :
    Reformatted compactElement (titleElement [.text "1", .comment "-", .text "2"]) ∧
      compactElement.toJson = .ok (.object [("Note", .string ""), ("Part", .string "12")]) ∧
      ((∃ value, compactElement.toJson = .ok value ∧
          (titleElement [.text "1", .comment "-", .text "2"]).toJson = .ok value) ∨
        (∃ fault, compactElement.toJson = .error fault) ∧
          ∃ fault, (titleElement [.text "1", .comment "-", .text "2"]).toJson = .error fault) := by
  have hblank : Content.IsBlank (.text "\n  ") := by
    intro characters hcharacters
    obtain rfl := Option.some.inj hcharacters
    decide
  have helement : ∀ child, Content.IsBlank (.element child) := by
    intro child characters hcharacters
    cases hcharacters
  have hqualifier : Reformats compactElement (.mk ⟨some "md", "Title"⟩ []
      [.element (partElement [.text "12"]), .element (.mk ⟨none, "Note"⟩ [] [])]) :=
    .qualifier rfl
  have hmove : Reformats (.mk ⟨some "md", "Title"⟩ []
        [.element (partElement [.text "12"]), .element (.mk ⟨none, "Note"⟩ [] [])])
      (.mk ⟨some "md", "Title"⟩ []
        [.element (.mk ⟨none, "Note"⟩ [] []), .element (partElement [.text "12"])]) :=
    @Reformats.move _ [] [] [] _ _ (.element (by decide))
  have hfirst : Reformats (.mk ⟨some "md", "Title"⟩ []
        [.element (.mk ⟨none, "Note"⟩ [] []), .element (partElement [.text "12"])])
      (.mk ⟨some "md", "Title"⟩ [] [.text "\n  ", .element (.mk ⟨none, "Note"⟩ [] []),
        .element (partElement [.text "12"])]) :=
    @Reformats.blanks _ [] [] [_, _] (.text "\n  ") _ rfl (by simp [hblank, helement])
  have hsecond : Reformats (.mk ⟨some "md", "Title"⟩ [] [.text "\n  ",
        .element (.mk ⟨none, "Note"⟩ [] []), .element (partElement [.text "12"])])
      (titleElement [.text "12"]) :=
    @Reformats.blanks _ [] [_, _] [_] (.text "\n  ") _ rfl (by simp [hblank, helement])
  have hpart : ∀ {content others : List Content},
      Reformats (partElement content) (partElement others) →
      Reformats (titleElement content) (titleElement others) := fun hchange =>
    @Reformats.child _ [] [_, _, _] [] _ _ hchange
  have hcut : Reformats (partElement [.text "12"]) (partElement [.text "1", .text "2"]) :=
    @Reformats.cut _ [] [] [] "1" "2"
  have hremark : Reformats (partElement [.text "1", .text "2"])
      (partElement [.text "1", .comment "-", .text "2"]) :=
    @Reformats.remark _ [] [_] [_] _ (.comment "-")
  have hchanged : Reformatted compactElement (titleElement [.text "1", .comment "-", .text "2"]) :=
    .trans _ _ _ (.rel _ _ hqualifier) <| .trans _ _ _ (.rel _ _ hmove) <|
      .trans _ _ _ (.rel _ _ hfirst) <| .trans _ _ _ (.rel _ _ hsecond) <|
      .trans _ _ _ (.rel _ _ (hpart hcut)) (.rel _ _ (hpart hremark))
  exact ⟨hchanged, rfl, toJson_of_reformatted hchanged⟩

end RegistryClient.Xml

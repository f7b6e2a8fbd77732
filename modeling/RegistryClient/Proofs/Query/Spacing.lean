import RegistryClient.Proofs.Query.Meaningless

/-!
# White space in what is searched for

Of the text of a search only its words matter, and of a date or a length only what is left of it
once it is trimmed.  So two query trees that are `Node.EqualButSpacing` compile to the same
expression, or are refused for the same fault (`compile_of_equalButSpacing`).

A query document has its texts in the same places, and besides the text in which identifiers are
given, of which only the words matter as well.  Reading takes documents that are equal but for
spacing to trees that are, or refuses both for the same fault (`readAlike_ofJson`), since no fault
of the form of a document lies in such a text.  `compile_ignores_spacing` puts both together.
-/

namespace RegistryClient.Query

/-! ## Trees -/

/-- The trees are equal, but the texts of a search may have their words spaced differently, and
dates and lengths may have other blanks around them. -/
inductive Node.EqualButSpacing : Node → Node → Prop where
  | join {connective : Connective} {operands others : List Node} :
      operands.length = others.length →
      (∀ {operand other : Node}, (operand, other) ∈ operands.zip others →
        EqualButSpacing operand other) →
      EqualButSpacing (.join connective operands) (.join connective others)
  | not {operand other : Node} : EqualButSpacing operand other →
      EqualButSpacing (.not operand) (.not other)
  | search {element : Element} {mode : TextMode} {words : List String} {text other : String} :
      Text.Spaced words text → Text.Spaced words other →
      EqualButSpacing (.search element mode text) (.search element mode other)
  | named {mode : IdMode} {ids : List String} : EqualButSpacing (.named mode ids) (.named mode ids)
  | date {bound : Bound} {value other : String} : Text.trim value = Text.trim other →
      EqualButSpacing (.date bound value) (.date bound other)
  | length {bound : Bound} {value other : String} : Text.trim value = Text.trim other →
      EqualButSpacing (.length bound value) (.length bound other)
  | hasField {field : Field} : EqualButSpacing (.hasField field) (.hasField field)
  | isRoot {expected : Bool} : EqualButSpacing (.isRoot expected) (.isRoot expected)
  | parent {id : String} : EqualButSpacing (.parent id) (.parent id)

namespace Node

theorem EqualButSpacing.join_of_forall₂ {connective : Connective} {operands others : List Node}
    (h : List.Forall₂ EqualButSpacing operands others) :
    EqualButSpacing (.join connective operands) (.join connective others) := by
  obtain ⟨hlength, hoperands⟩ := List.forall₂_iff_zip.mp h
  exact .join hlength hoperands

/-- A text consists of its own words. -/
theorem equalButSpacing_search_self (element : Element) (mode : TextMode) (text : String) :
    EqualButSpacing (.search element mode text) (.search element mode text) :=
  have hspaced : Text.Spaced (Text.words text) text := Text.words_eq_iff.mp rfl
  .search hspaced hspaced

theorem EqualButSpacing.refl (node : Node) : EqualButSpacing node node := by
  induction node with
  | join connective operands ih => exact .join_of_forall₂ (List.forall₂_same.mpr ih)
  | not operand ih => exact .not ih
  | search element mode text => exact equalButSpacing_search_self element mode text
  | named => exact .named
  | date => exact .date rfl
  | length => exact .length rfl
  | hasField => exact .hasField
  | isRoot => exact .isRoot
  | parent => exact .parent

end Node

theorem words_eq_of_spaced {words : List String} {text other : String}
    (htext : Text.Spaced words text) (hother : Text.Spaced words other) :
    Text.words text = Text.words other :=
  (Text.words_eq_iff.mpr htext).trans (Text.words_eq_iff.mpr hother).symm

/-- Trees that are equal but for spacing compile alike. -/
theorem compile_of_equalButSpacing {node other : Node} (h : node.EqualButSpacing other) :
    node.compile = other.compile := by
  induction h with
  | @join connective operands others hlength _ ih =>
      have hoperands : List.Forall₂ (fun operand other => operand.compile = other.compile)
          operands others :=
        List.forall₂_iff_zip.mpr ⟨hlength, ih⟩
      have hall : operands.mapM Node.compile = others.mapM Node.compile :=
        Outcome.mapM_congr hoperands
      rw [Node.compile, Node.compile, Node.compileAll_eq_mapM, Node.compileAll_eq_mapM, hall]
  | not _ ih => rw [Node.compile, Node.compile, ih]
  | search htext hother =>
      rw [Node.compile, Node.compile, compileSearch, compileSearch,
        words_eq_of_spaced htext hother]
  | date htrim => rw [Node.compile, Node.compile, compileBound, compileBound, htrim]
  | length htrim => rw [Node.compile, Node.compile, compileBound, compileBound, htrim]
  | named | hasField | isRoot | parent => rfl

/-! ## Single spaces -/

namespace Node

mutual

/-- The tree with the words of every search joined by single spaces. -/
def singleSpaced : Node → Node
  | .join connective operands => .join connective (singleSpacedAll operands)
  | .not operand => .not operand.singleSpaced
  | .search element mode text => .search element mode (Text.joinWith " " (Text.words text))
  | predicate => predicate

/-- Each of some trees with single spaces. -/
def singleSpacedAll : List Node → List Node
  | [] => []
  | operand :: rest => operand.singleSpaced :: singleSpacedAll rest

end

theorem singleSpacedAll_eq_map (operands : List Node) :
    singleSpacedAll operands = operands.map singleSpaced := by
  induction operands with
  | nil => rfl
  | cons operand rest ih => rw [singleSpacedAll, ih, List.map_cons]

theorem equalButSpacing_singleSpaced (node : Node) : node.EqualButSpacing node.singleSpaced := by
  induction node with
  | join connective operands ih =>
      rw [singleSpaced, singleSpacedAll_eq_map]
      exact .join_of_forall₂ (List.forall₂_map_right_iff.mpr (List.forall₂_same.mpr ih))
  | not operand ih => exact .not ih
  | search element mode text =>
      have hwords : ∀ word ∈ Text.words text, Text.IsWord word.toList :=
        fun word => Text.isWord_of_mem_words
      exact .search (Text.words_eq_iff.mp rfl) (Text.spaced_joinWith hwords)
  | named | date | length | hasField | isRoot | parent => exact .refl _

theorem wellFormed_singleSpaced {node : Node} (h : node.WellFormed) :
    node.singleSpaced.WellFormed := by
  induction h with
  | join hne _ ih =>
      rw [singleSpaced, singleSpacedAll_eq_map]
      exact .join (by simpa using hne) (List.forall_mem_map.mpr ih)
  | not _ ih => exact .not ih
  | search => exact .search
  | named hwords => exact .named hwords
  | date => exact .date
  | length => exact .length
  | hasField => exact .hasField
  | isRoot => exact .isRoot
  | parent => exact .parent

end Node

/-! ## Documents -/

/-- The documents are equal, but where identifiers or the text of a search are given the same words
may be spaced differently, and dates and lengths may have other blanks around them. -/
inductive Document.EqualButSpacing : Json → Json → Prop where
  | same (document : Json) : EqualButSpacing document document
  | join {connective : Connective} {items others : List Json} : items.length = others.length →
      (∀ {item other : Json}, (item, other) ∈ items.zip others → EqualButSpacing item other) →
      EqualButSpacing (.object [(connective.key, .array items)])
        (.object [(connective.key, .array others)])
  | not {argument other : Json} : EqualButSpacing argument other →
      EqualButSpacing (.object [("not", argument)]) (.object [("not", other)])
  | search {element : Element} {mode : String} {words : List String} {text other : String} :
      Text.Spaced words text → Text.Spaced words other →
      EqualButSpacing (.object [(element.key, .object [(mode, .string text)])])
        (.object [(element.key, .object [(mode, .string other)])])
  | ids {mode : String} {ids : List String} {text other : String} :
      Text.Spaced ids text → Text.Spaced ids other →
      EqualButSpacing (.object [("id", .object [(mode, .string text)])])
        (.object [("id", .object [(mode, .string other)])])
  | date {bound : Bound} {value other : String} : Text.trim value = Text.trim other →
      EqualButSpacing (.object [(bound.dateKey, .string value)])
        (.object [(bound.dateKey, .string other)])
  | length {bound : Bound} {value other : String} : Text.trim value = Text.trim other →
      EqualButSpacing (.object [(bound.lengthKey, .string value)])
        (.object [(bound.lengthKey, .string other)])

theorem Document.EqualButSpacing.join_of_forall₂ {connective : Connective}
    {items others : List Json} (h : List.Forall₂ EqualButSpacing items others) :
    EqualButSpacing (.object [(connective.key, .array items)])
      (.object [(connective.key, .array others)]) := by
  obtain ⟨hlength, hitems⟩ := List.forall₂_iff_zip.mp h
  exact .join hlength hitems

/-- Both are refused for the same fault, or read as what is related. -/
inductive ReadAlike {α : Type} (Related : α → α → Prop) :
    Except QueryFault α → Except QueryFault α → Prop where
  | refused (fault : QueryFault) : ReadAlike Related (.error fault) (.error fault)
  | read {result other : α} : Related result other → ReadAlike Related (.ok result) (.ok other)

section ReadAlike

variable {α β : Type} {Related : α → α → Prop} {first second : Except QueryFault α}

theorem ReadAlike.refl (hrefl : ∀ result, Related result result) (outcome : Except QueryFault α) :
    ReadAlike Related outcome outcome := by
  cases outcome with
  | error fault => exact .refused fault
  | ok result => exact .read (hrefl result)

theorem ReadAlike.map {Other : β → β → Prop} {change : α → β} (h : ReadAlike Related first second)
    (hchange : ∀ {result other}, Related result other → Other (change result) (change other)) :
    ReadAlike Other (first.map change) (second.map change) := by
  cases h with
  | refused fault => exact .refused fault
  | read hrelated => exact .read (hchange hrelated)

theorem ReadAlike.bind {Other : β → β → Prop} {next after : α → Except QueryFault β}
    (h : ReadAlike Related first second)
    (hnext : ∀ {result other}, Related result other → ReadAlike Other (next result) (after other)) :
    ReadAlike Other (first >>= next) (second >>= after) := by
  cases h with
  | refused fault => exact .refused fault
  | read hrelated => exact hnext hrelated

theorem ReadAlike.bind_eq {next : α → Except QueryFault β} (h : ReadAlike Related first second)
    (hnext : ∀ {result other}, Related result other → next result = next other) :
    first >>= next = second >>= next := by
  cases h with
  | refused fault => rfl
  | read hrelated => exact hnext hrelated

theorem ReadAlike.exists_ok_iff (h : ReadAlike Related first second) :
    (∃ result, first = .ok result) ↔ ∃ result, second = .ok result := by
  cases h with
  | refused fault => simp
  | read => simp

end ReadAlike

open Document

theorem readAlike_ofItems {items others : List Json}
    (h : List.Forall₂ (fun item other =>
      ReadAlike Node.EqualButSpacing (Node.ofJson item) (Node.ofJson other)) items others) :
    ReadAlike (List.Forall₂ Node.EqualButSpacing) (Node.ofItems items) (Node.ofItems others) := by
  induction h with
  | nil => exact .read .nil
  | cons hitem _ ih =>
      rw [Node.ofItems, Node.ofItems]
      exact hitem.bind fun hnode => ih.bind fun hnodes => .read (.cons hnode hnodes)

theorem readAlike_ofOperands (key : String) {items others : List Json}
    (h : List.Forall₂ (fun item other =>
      ReadAlike Node.EqualButSpacing (Node.ofJson item) (Node.ofJson other)) items others) :
    ReadAlike (List.Forall₂ Node.EqualButSpacing) (Node.ofOperands key (.array items))
      (Node.ofOperands key (.array others)) := by
  cases h with
  | nil => exact .refused (.noOperands key)
  | cons hitem hrest =>
      rw [Node.ofOperands, Node.ofOperands]
      exact readAlike_ofItems (.cons hitem hrest)

/-- The mode is read before the text is, and every text is read. -/
theorem modeAndText_field {Mode : Type} (part : String) (ofKey? : String → Option Mode)
    (mode text : String) :
    modeAndText part ofKey? (.object [(mode, .string text)]) =
      match ofKey? mode with
      | none => .error (.unknownMode part mode)
      | some found => .ok (found, text) := by
  simp only [modeAndText, soleField, bind, Except.bind]
  cases ofKey? mode with
  | none => rfl
  | some found => rfl

/-- Documents that are equal but for spacing are refused alike, or read as trees that are equal but
for spacing. -/
theorem readAlike_ofJson {document other : Json} (h : Document.EqualButSpacing document other) :
    ReadAlike Node.EqualButSpacing (Node.ofJson document) (Node.ofJson other) := by
  induction h with
  | same document => exact .refl .refl _
  | @join connective items others hlength _ ih =>
      rw [ofJson_connective, ofJson_connective]
      exact (readAlike_ofOperands _ (List.forall₂_iff_zip.mpr ⟨hlength, ih⟩)).map .join_of_forall₂
  | not _ ih =>
      rw [ofJson_not, ofJson_not]
      exact ih.map .not
  | @search element mode words text other htext hother =>
      rw [ofJson_element, ofJson_element, modeAndText_field, modeAndText_field]
      cases TextMode.ofKey? mode with
      | none => exact .refused _
      | some mode => exact .read (.search htext hother)
  | @ids mode ids text other htext hother =>
      have hwords : Text.words text = Text.words other := words_eq_of_spaced htext hother
      rw [ofJson_predicate _ rfl (by decide), ofJson_predicate _ rfl (by decide)]
      simp only [predicate, modeAndText_field]
      cases IdMode.ofKey? mode with
      | none => exact .refused _
      | some mode => exact .read (hwords ▸ .named)
  | @date bound value other htrim => cases bound <;> exact .read (.date htrim)
  | @length bound value other htrim => cases bound <;> exact .read (.length htrim)

/-- Documents that are equal but for spacing have the same expression, or are refused alike. -/
theorem compileJson_of_equalButSpacing {document other : Json}
    (h : Document.EqualButSpacing document other) : compileJson document = compileJson other := by
  rw [compileJson, compileJson]
  exact (readAlike_ofJson h).bind_eq compile_of_equalButSpacing

/-- The document of the tree with single spaces also has single spaces between identifiers. -/
theorem compileJson_singleSpaced {document : Json} {node : Node}
    (hread : Node.ofJson document = .ok node) :
    compileJson node.singleSpaced.toJson = compileJson document := by
  have hwellFormed : node.WellFormed := (ofJson_sound hread).1
  have hsingle : Node.ofJson node.singleSpaced.toJson = .ok node.singleSpaced :=
    ofJson_complete (Node.wellFormed_singleSpaced hwellFormed) (.same _)
  rw [compileJson_of_ofJson hsingle, compileJson_of_ofJson hread]
  exact (compile_of_equalButSpacing (Node.equalButSpacing_singleSpaced node)).symm

/-- **Spacing is irrelevant.**  Trees that are equal but for spacing come to the same, an expression
or a fault.  So do documents that are equal but for spacing or are read as such trees, and one of
them is read if the other is.  In particular single spaces will do between words. -/
theorem compile_ignores_spacing :
    (∀ node other : Node, node.EqualButSpacing other → node.compile = other.compile) ∧
    (∀ document other : Json, Document.EqualButSpacing document other →
      ((∃ node, Node.ofJson document = .ok node) ↔ ∃ node, Node.ofJson other = .ok node) ∧
        compileJson document = compileJson other) ∧
    (∀ (document other : Json) (node otherNode : Node), Node.ofJson document = .ok node →
      Node.ofJson other = .ok otherNode → node.EqualButSpacing otherNode →
        compileJson document = compileJson other) ∧
    (∀ node : Node, node.singleSpaced.compile = node.compile) ∧
    ∀ (document : Json) (node : Node), Node.ofJson document = .ok node →
      compileJson node.singleSpaced.toJson = compileJson document := by
  refine ⟨fun _ _ => compile_of_equalButSpacing, ?_, ?_, ?_, fun _ _ => compileJson_singleSpaced⟩
  · intro document other h
    exact ⟨(readAlike_ofJson h).exists_ok_iff, compileJson_of_equalButSpacing h⟩
  · intro document other node otherNode hread hother h
    rw [compileJson_of_ofJson hread, compileJson_of_ofJson hother]
    exact compile_of_equalButSpacing h
  · intro node
    exact (compile_of_equalButSpacing (Node.equalButSpacing_singleSpaced node)).symm

/-- A title, a date and two identifiers, generously spaced. -/
def spaciousDocument : Json :=
  .object [("or", .array [.object [("title", .object [("contains", .string "\tThe  Third Man\n")])],
    .object [("not", .object [("before", .string " 1950 ")])],
    .object [("id", .object [("words",
      .string " 10.5240/7791-8534-2C23-9030-8610-5\n10.5240/EA73-79D7-1B2B-B378-3A73-M")])]])]

/-- `spaciousDocument` with single spaces. -/
def denseDocument : Json :=
  .object [("or", .array [.object [("title", .object [("contains", .string "The Third Man")])],
    .object [("not", .object [("before", .string "1950")])],
    .object [("id", .object [("words",
      .string "10.5240/7791-8534-2C23-9030-8610-5 10.5240/EA73-79D7-1B2B-B378-3A73-M")])]])]

/-- The tree of a title, a date and two identifiers. -/
def spacedTree (title date : String) : Node :=
  .join .or [.search .title .contains title, .not (.date .atMost date),
    .named .words ["10.5240/7791-8534-2C23-9030-8610-5", "10.5240/EA73-79D7-1B2B-B378-3A73-M"]]

theorem compile_ignores_spacing_title :
    (spacedTree "\tThe  Third Man\n" " 1950 ").compile =
        (spacedTree "The Third Man" "1950").compile ∧
      compileJson spaciousDocument = compileJson denseDocument ∧
      compileJson spaciousDocument = compileJson (spacedTree "The Third Man" "1950").toJson ∧
      compileJson (spacedTree "\tThe  Third Man\n" " 1950 ").singleSpaced.toJson =
        compileJson spaciousDocument := by
  have hspacious : Text.Spaced ["The", "Third", "Man"] "\tThe  Third Man\n" :=
    Text.words_eq_iff.mp (by decide +kernel)
  have hdense : Text.Spaced ["The", "Third", "Man"] "The Third Man" :=
    Text.words_eq_iff.mp (by decide +kernel)
  have htrim : Text.trim " 1950 " = Text.trim "1950" := by decide +kernel
  have htrees : (spacedTree "\tThe  Third Man\n" " 1950 ").EqualButSpacing
      (spacedTree "The Third Man" "1950") :=
    .join_of_forall₂
      (.cons (.search hspacious hdense) (.cons (.not (.date htrim)) (.cons .named .nil)))
  have hspaciousIds : Text.Spaced
      ["10.5240/7791-8534-2C23-9030-8610-5", "10.5240/EA73-79D7-1B2B-B378-3A73-M"]
      " 10.5240/7791-8534-2C23-9030-8610-5\n10.5240/EA73-79D7-1B2B-B378-3A73-M" :=
    Text.words_eq_iff.mp (by decide +kernel)
  have hdenseIds : Text.Spaced
      ["10.5240/7791-8534-2C23-9030-8610-5", "10.5240/EA73-79D7-1B2B-B378-3A73-M"]
      "10.5240/7791-8534-2C23-9030-8610-5 10.5240/EA73-79D7-1B2B-B378-3A73-M" :=
    Text.words_eq_iff.mp (by decide +kernel)
  have hdocuments : Document.EqualButSpacing spaciousDocument denseDocument :=
    @Document.EqualButSpacing.join_of_forall₂ .or _ _
      (.cons (@Document.EqualButSpacing.search .title _ _ _ _ hspacious hdense)
        (.cons (.not (@Document.EqualButSpacing.date .atMost _ _ htrim))
          (.cons (.ids hspaciousIds hdenseIds) .nil)))
  have hread : Node.ofJson spaciousDocument =
      .ok (spacedTree "\tThe  Third Man\n" " 1950 ") := rfl
  have hother : Node.ofJson (spacedTree "The Third Man" "1950").toJson =
      .ok (spacedTree "The Third Man" "1950") := rfl
  exact ⟨compile_ignores_spacing.1 _ _ htrees, (compile_ignores_spacing.2.1 _ _ hdocuments).2,
    compile_ignores_spacing.2.2.1 _ _ _ _ hread hother htrees,
    compile_ignores_spacing.2.2.2.2 _ _ hread⟩

end RegistryClient.Query

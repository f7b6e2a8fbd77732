import RegistryClient.Proofs.Outcome
import RegistryClient.Proofs.Query.Expression
import RegistryClient.Proofs.Query.Keys

/-!
# The documents of queries

`Node.toJson` writes a query tree as a document.  A document says more than its
tree in one place only: identifiers are given in one text, and it does not matter
how they are spaced there.  Two documents are `Respaced` when they are equal but
for this.

The main statement is `ofJson_grammar`: the documents that are read are those of
well-formed trees, respaced, and each is read as that tree; all other values are
refused as faults of the caller's input.  It rests on a spec for each of the
readers (`textArgument_eq_ok_iff` to `ofOperands_eq_ok_iff`), `predicate_sound`
for the predicates, and one induction over the tree in each direction.
-/

namespace RegistryClient.Query

namespace Node

/-! ## Documents -/

mutual

/-- The document of a query tree. -/
def toJson : Node → Json
  | .join connective operands => .object [(connective.key, .array (toJsons operands))]
  | .not operand => .object [("not", operand.toJson)]
  | .search element mode text => .object [(element.key, .object [(mode.key, .string text)])]
  | .named mode ids => .object [("id", .object [(mode.key, .string (Text.joinWith " " ids))])]
  | .date bound value => .object [(bound.dateKey, .string value)]
  | .length bound value => .object [(bound.lengthKey, .string value)]
  | .hasField field => .object [("exists", .string field.key)]
  | .isRoot expected => .object [("isroot", .bool expected)]
  | .parent id => .object [("parent", .string id)]

/-- The documents of some query trees. -/
def toJsons : List Node → List Json
  | [] => []
  | operand :: rest => operand.toJson :: toJsons rest

end

/-- Every connective of the tree has an operand, and every identifier that the
record may have is a word. -/
inductive WellFormed : Node → Prop where
  | join {connective : Connective} {operands : List Node} : operands ≠ [] →
      (∀ operand ∈ operands, WellFormed operand) → WellFormed (.join connective operands)
  | not {operand : Node} : WellFormed operand → WellFormed (.not operand)
  | search {element : Element} {mode : TextMode} {text : String} :
      WellFormed (.search element mode text)
  | named {mode : IdMode} {ids : List String} : (∀ id ∈ ids, Text.IsWord id.toList) →
      WellFormed (.named mode ids)
  | date {bound : Bound} {value : String} : WellFormed (.date bound value)
  | length {bound : Bound} {value : String} : WellFormed (.length bound value)
  | hasField {field : Field} : WellFormed (.hasField field)
  | isRoot {expected : Bool} : WellFormed (.isRoot expected)
  | parent {id : String} : WellFormed (.parent id)

end Node

/-! ## Spacing of identifiers -/

mutual

/-- The documents are equal, except that where identifiers are given the same words
may be spaced differently. -/
inductive Respaced : Json → Json → Prop where
  | same (document : Json) : Respaced document document
  | array {items others : List Json} : RespacedItems items others →
      Respaced (.array items) (.array others)
  | field {key : String} {argument other : Json} : Respaced argument other →
      Respaced (.object [(key, argument)]) (.object [(key, other)])
  | ids {mode text other : String} {ids : List String} : Text.Spaced ids text →
      Text.Spaced ids other →
      Respaced (.object [("id", .object [(mode, .string text)])])
        (.object [("id", .object [(mode, .string other)])])

/-- `Respaced` of each two items. -/
inductive RespacedItems : List Json → List Json → Prop where
  | nil : RespacedItems [] []
  | cons {item other : Json} {items others : List Json} : Respaced item other →
      RespacedItems items others → RespacedItems (item :: items) (other :: others)

end

theorem respacedItems_same (items : List Json) : RespacedItems items items := by
  induction items with
  | nil => exact .nil
  | cons item rest ih => exact .cons (.same item) ih

/-! What is respaced has the same shape. -/

theorem respaced_string_iff {document : Json} {text : String} :
    Respaced document (.string text) ↔ document = .string text := by
  constructor
  · intro h
    cases h
    rfl
  · rintro rfl
    exact .same _

theorem respaced_bool_iff {document : Json} {value : Bool} :
    Respaced document (.bool value) ↔ document = .bool value := by
  constructor
  · intro h
    cases h
    rfl
  · rintro rfl
    exact .same _

theorem respaced_array_iff {document : Json} {others : List Json} :
    Respaced document (.array others) ↔
      ∃ items, document = .array items ∧ RespacedItems items others := by
  constructor
  · intro h
    cases h with
    | same => exact ⟨others, rfl, respacedItems_same others⟩
    | array hitems => exact ⟨_, rfl, hitems⟩
  · rintro ⟨items, rfl, hitems⟩
    exact .array hitems

theorem respaced_field_iff {document other : Json} {key : String} (hkey : key ≠ "id") :
    Respaced document (.object [(key, other)]) ↔
      ∃ argument, document = .object [(key, argument)] ∧ Respaced argument other := by
  constructor
  · intro h
    cases h with
    | same => exact ⟨other, rfl, .same other⟩
    | field hargument => exact ⟨_, rfl, hargument⟩
    | ids => exact absurd rfl hkey
  · rintro ⟨argument, rfl, hargument⟩
    exact .field hargument

/-- Respaced identifiers are the same identifiers. -/
theorem respaced_ids_iff {document : Json} {mode other : String} :
    Respaced document (.object [("id", .object [(mode, .string other)])]) ↔
      ∃ text, document = .object [("id", .object [(mode, .string text)])] ∧
        Text.words text = Text.words other := by
  constructor
  · intro h
    cases h with
    | same => exact ⟨other, rfl, rfl⟩
    | field hargument =>
        cases hargument with
        | same => exact ⟨other, rfl, rfl⟩
        | field htext =>
            obtain rfl := respaced_string_iff.mp htext
            exact ⟨other, rfl, rfl⟩
    | @ids _ text _ ids htext hother =>
        exact ⟨text, rfl, (Text.words_eq_iff.mpr htext).trans (Text.words_eq_iff.mpr hother).symm⟩
  · rintro ⟨text, rfl, hwords⟩
    exact .ids (Text.words_eq_iff.mp hwords) (Text.words_eq_iff.mp rfl)

/-- The tree is well-formed, and the document is its own, respaced. -/
def IsDocumentOf (document : Json) (node : Node) : Prop :=
  node.WellFormed ∧ Respaced document node.toJson

/-! ## The readers of arguments -/

namespace Document

theorem textArgument_eq_ok_iff {part text : String} {argument : Json} :
    textArgument part argument = .ok text ↔ argument = .string text := by
  cases argument <;> simp [textArgument]

theorem map_textArgument_eq_ok_iff {part : String} {argument : Json} {make : String → Node}
    {node : Node} :
    (textArgument part argument).map make = .ok node ↔
      ∃ text, argument = .string text ∧ make text = node := by
  simp only [Outcome.map_eq_ok_iff, textArgument_eq_ok_iff]

theorem soleField_eq_ok_iff {part : String} {argument : Json} {field : String × Json} :
    soleField part argument = .ok field ↔ argument = .object [field] := by
  constructor
  · intro h
    unfold soleField at h
    split at h <;> cases h
    rfl
  · rintro rfl
    rfl

theorem modeAndText_eq_ok_iff {Mode : Type} {part text : String} {ofKey? : String → Option Mode}
    {argument : Json} {mode : Mode} :
    modeAndText part ofKey? argument = .ok (mode, text) ↔
      ∃ key, argument = .object [(key, .string text)] ∧ ofKey? key = some mode := by
  rw [modeAndText, Outcome.bind_eq_ok_iff]
  constructor
  · rintro ⟨⟨key, value⟩, hfield, h⟩
    cases hmode : ofKey? key with
    | none => simp [hmode] at h
    | some found =>
        simp only [hmode, Outcome.bind_eq_ok_iff, textArgument_eq_ok_iff, pure, Except.pure,
          Except.ok.injEq, Prod.mk.injEq] at h
        obtain ⟨value, rfl, rfl, rfl⟩ := h
        exact ⟨key, soleField_eq_ok_iff.mp hfield, hmode⟩
  · rintro ⟨key, rfl, hmode⟩
    refine ⟨(key, .string text), rfl, ?_⟩
    simp only [hmode]
    rfl

end Document

open Document

theorem ofOperands_eq_ok_iff {key : String} {argument : Json} {nodes : List Node} :
    Node.ofOperands key argument = .ok nodes ↔
      ∃ items, argument = .array items ∧ items ≠ [] ∧ Node.ofItems items = .ok nodes := by
  constructor
  · intro h
    unfold Node.ofOperands at h
    split at h
    · cases h
    · exact ⟨_, rfl, by simp, h⟩
    · cases h
  · rintro ⟨items, rfl, hne, hitems⟩
    obtain ⟨item, rest, rfl⟩ := List.exists_cons_of_ne_nil hne
    rw [Node.ofOperands, hitems]

/-! ## What is read -/

/-- The predicate that is read is the one whose document was given. -/
theorem predicate_sound {key : String} {argument : Json} {node : Node}
    (h : predicate key argument = .ok node) :
    IsDocumentOf (.object [(key, argument)]) node := by
  unfold predicate at h
  split at h
  case h_1 =>
    obtain ⟨⟨mode, text⟩, hargument, hnode⟩ := Outcome.bind_eq_ok_iff.mp h
    obtain ⟨modeKey, rfl, hmode⟩ := modeAndText_eq_ok_iff.mp hargument
    obtain rfl := IdMode.ofKey?_eq_some_iff.mp hmode
    cases hnode
    have hwords : ∀ id ∈ Text.words text, Text.IsWord id.toList :=
      fun id => Text.isWord_of_mem_words
    exact ⟨.named hwords, respaced_ids_iff.mpr ⟨text, rfl, (Text.words_joinWith hwords).symm⟩⟩
  case h_8 =>
    obtain ⟨name, hname, hnode⟩ := Outcome.bind_eq_ok_iff.mp h
    obtain rfl := textArgument_eq_ok_iff.mp hname
    cases hfield : Field.ofKey? name with
    | none => simp [hfield] at hnode
    | some field =>
        obtain rfl := Field.ofKey?_eq_some_iff.mp hfield
        rw [hfield] at hnode
        cases hnode
        exact ⟨.hasField, .same _⟩
  case h_9 =>
    split at h
    · cases h
      exact ⟨.isRoot, .same _⟩
    · cases h
  case h_11 =>
    split at h
    · next element helement =>
      obtain rfl := Element.ofKey?_eq_some_iff.mp helement
      obtain ⟨⟨mode, text⟩, hargument, hnode⟩ := Outcome.bind_eq_ok_iff.mp h
      obtain ⟨modeKey, rfl, hmode⟩ := modeAndText_eq_ok_iff.mp hargument
      obtain rfl := TextMode.ofKey?_eq_some_iff.mp hmode
      cases hnode
      exact ⟨.search, .same _⟩
    · cases h
  -- dates, lengths and parents are given as they are
  all_goals
    obtain ⟨text, rfl, rfl⟩ := map_textArgument_eq_ok_iff.mp h
    exact ⟨by constructor, .same _⟩

/-- A query tree is read from an object with one key. -/
theorem ofJson_cases {document : Json} {node : Node} (h : Node.ofJson document = .ok node) :
    ∃ key argument, document = .object [(key, argument)] ∧
      ((∃ connective operands, key = connective.key ∧
          Node.ofOperands key argument = .ok operands ∧ node = .join connective operands) ∨
        (∃ operand, key = "not" ∧ Node.ofJson argument = .ok operand ∧ node = .not operand) ∨
        predicate key argument = .ok node) := by
  unfold Node.ofJson at h
  split at h
  case h_1 key argument =>
    refine ⟨key, argument, rfl, ?_⟩
    split at h
    · next connective hconnective =>
      obtain ⟨operands, hoperands, rfl⟩ := Outcome.map_eq_ok_iff.mp h
      exact Or.inl ⟨connective, operands, Connective.ofKey?_eq_some_iff.mp hconnective, hoperands,
        rfl⟩
    · split at h
      · next hkey =>
        obtain ⟨operand, hoperand, rfl⟩ := Outcome.map_eq_ok_iff.mp h
        exact Or.inr (Or.inl ⟨operand, hkey, hoperand, rfl⟩)
      · exact Or.inr (Or.inr h)
  all_goals cases h

theorem ofItems_sound {nodes : List Node}
    (ih : ∀ node ∈ nodes, ∀ {document : Json}, Node.ofJson document = .ok node →
      IsDocumentOf document node) {items : List Json} (h : Node.ofItems items = .ok nodes) :
    (∀ node ∈ nodes, node.WellFormed) ∧ RespacedItems items (Node.toJsons nodes) := by
  induction nodes generalizing items with
  | nil =>
      cases items with
      | nil => exact ⟨by simp, .nil⟩
      | cons item rest =>
          rw [Node.ofItems, Outcome.bind_eq_ok_iff] at h
          simp [Outcome.bind_eq_ok_iff, pure, Except.pure] at h
  | cons node others ihothers =>
      cases items with
      | nil => cases h
      | cons item rest =>
          obtain ⟨hnode, hothers⟩ := List.forall_mem_cons.mp ih
          rw [Node.ofItems, Outcome.bind_eq_ok_iff] at h
          simp only [Outcome.bind_eq_ok_iff, pure, Except.pure, Except.ok.injEq,
            List.cons.injEq] at h
          obtain ⟨_, hitem, _, hrest, rfl, rfl⟩ := h
          obtain ⟨hwellFormed, hrespaced⟩ := ihothers hothers hrest
          exact ⟨List.forall_mem_cons.mpr ⟨(hnode hitem).1, hwellFormed⟩,
            .cons (hnode hitem).2 hrespaced⟩

/-- What is read is well-formed, and the document is its own, respaced. -/
theorem ofJson_sound {document : Json} {node : Node} (h : Node.ofJson document = .ok node) :
    IsDocumentOf document node := by
  induction node generalizing document with
  | join connective operands ih =>
      obtain ⟨key, argument, rfl, hcase⟩ := ofJson_cases h
      rcases hcase with ⟨_, _, rfl, hoperands, hnode⟩ | ⟨_, _, _, hnode⟩ | hpredicate
      · cases hnode
        obtain ⟨items, rfl, hne, hitems⟩ := ofOperands_eq_ok_iff.mp hoperands
        obtain ⟨hwellFormed, hrespaced⟩ := ofItems_sound ih hitems
        -- as many operands are read as items were given
        have hoperandsNe : operands ≠ [] := by
          rintro rfl
          cases hrespaced
          exact hne rfl
        exact ⟨.join hoperandsNe hwellFormed, .field (.array hrespaced)⟩
      · cases hnode
      · exact predicate_sound hpredicate
  | not operand ih =>
      obtain ⟨key, argument, rfl, hcase⟩ := ofJson_cases h
      rcases hcase with ⟨_, _, _, _, hnode⟩ | ⟨_, rfl, hoperand, hnode⟩ | hpredicate
      · cases hnode
      · cases hnode
        exact ⟨.not (ih hoperand).1, .field (ih hoperand).2⟩
      · exact predicate_sound hpredicate
  | _ =>
      obtain ⟨key, argument, rfl, hcase⟩ := ofJson_cases h
      rcases hcase with ⟨_, _, _, _, hnode⟩ | ⟨_, _, _, hnode⟩ | hpredicate
      · cases hnode
      · cases hnode
      · exact predicate_sound hpredicate

/-! ## What is read back -/

theorem ofJson_connective (connective : Connective) (argument : Json) :
    Node.ofJson (.object [(connective.key, argument)]) =
      (Node.ofOperands connective.key argument).map (.join connective) := by
  rw [Node.ofJson, Connective.ofKey?_eq_some_iff.mpr rfl]

theorem ofJson_not (argument : Json) :
    Node.ofJson (.object [("not", argument)]) = (Node.ofJson argument).map .not := by
  rw [Node.ofJson]
  rfl

theorem ofJson_predicate {key : String} (argument : Json)
    (hconnective : Connective.ofKey? key = none) (hnot : key ≠ "not") :
    Node.ofJson (.object [(key, argument)]) = predicate key argument := by
  rw [Node.ofJson, hconnective]
  exact if_neg hnot

/-- No element has the key of a connective, of a negation or of another predicate. -/
theorem ofJson_element (element : Element) (argument : Json) :
    Node.ofJson (.object [(element.key, argument)]) =
      (modeAndText element.key TextMode.ofKey? argument).map fun (mode, text) =>
        .search element mode text := by
  have hconnective : Connective.ofKey? element.key = none := by cases element <;> rfl
  have hnot : element.key ≠ "not" := by cases element <;> decide
  have hpredicate : predicate element.key argument =
      (modeAndText element.key TextMode.ofKey? argument).map fun (mode, text) =>
        .search element mode text := by
    cases element <;> rfl
  rw [ofJson_predicate argument hconnective hnot, hpredicate]

theorem ofItems_complete {nodes : List Node}
    (ih : ∀ node ∈ nodes, ∀ {document : Json}, Respaced document node.toJson →
      Node.ofJson document = .ok node) {items : List Json}
    (h : RespacedItems items (Node.toJsons nodes)) : Node.ofItems items = .ok nodes := by
  induction nodes generalizing items with
  | nil =>
      cases h
      rfl
  | cons node others ihothers =>
      obtain ⟨hnode, hothers⟩ := List.forall_mem_cons.mp ih
      cases h with
      | cons hitem hrest =>
          rw [Node.ofItems, hnode hitem, ihothers hothers hrest]
          rfl

/-- Every document of a well-formed tree is read as that tree. -/
theorem ofJson_complete {node : Node} (hwellFormed : node.WellFormed) {document : Json}
    (h : Respaced document node.toJson) : Node.ofJson document = .ok node := by
  induction hwellFormed generalizing document with
  | @join connective operands hne _ ih =>
      have hkey : connective.key ≠ "id" := by cases connective <;> decide
      obtain ⟨argument, rfl, hargument⟩ := (respaced_field_iff hkey).mp h
      obtain ⟨items, rfl, hitems⟩ := respaced_array_iff.mp hargument
      have hitemsNe : items ≠ [] := by
        rintro rfl
        cases operands with
        | nil => exact hne rfl
        | cons => cases hitems
      have hoperands : Node.ofOperands connective.key (.array items) = .ok operands :=
        ofOperands_eq_ok_iff.mpr ⟨items, rfl, hitemsNe, ofItems_complete ih hitems⟩
      rw [ofJson_connective, hoperands]
      rfl
  | not _ ih =>
      obtain ⟨argument, rfl, hargument⟩ := (respaced_field_iff (by decide)).mp h
      rw [ofJson_not, ih hargument]
      rfl
  | @search element mode text =>
      have hkey : element.key ≠ "id" := by cases element <;> decide
      have hmodeKey : mode.key ≠ "id" := by cases mode <;> decide
      obtain ⟨argument, rfl, hargument⟩ := (respaced_field_iff hkey).mp h
      obtain ⟨value, rfl, hvalue⟩ := (respaced_field_iff hmodeKey).mp hargument
      obtain rfl := respaced_string_iff.mp hvalue
      rw [ofJson_element, modeAndText_eq_ok_iff.mpr ⟨_, rfl, TextMode.ofKey?_eq_some_iff.mpr rfl⟩]
      rfl
  | @named mode ids hids =>
      obtain ⟨text, rfl, hwords⟩ := respaced_ids_iff.mp h
      -- the respaced text has the words of the joined one, which are the identifiers
      rw [Text.words_joinWith hids] at hwords
      have hargument : modeAndText "id" IdMode.ofKey? (.object [(mode.key, .string text)]) =
          .ok (mode, text) :=
        modeAndText_eq_ok_iff.mpr ⟨_, rfl, IdMode.ofKey?_eq_some_iff.mpr rfl⟩
      rw [ofJson_predicate _ rfl (by decide), ← hwords]
      simp only [predicate, hargument]
      rfl
  | @date bound value =>
      have hkey : bound.dateKey ≠ "id" := by cases bound <;> decide
      obtain ⟨argument, rfl, hargument⟩ := (respaced_field_iff hkey).mp h
      obtain rfl := respaced_string_iff.mp hargument
      cases bound <;> rfl
  | @length bound value =>
      have hkey : bound.lengthKey ≠ "id" := by cases bound <;> decide
      obtain ⟨argument, rfl, hargument⟩ := (respaced_field_iff hkey).mp h
      obtain rfl := respaced_string_iff.mp hargument
      cases bound <;> rfl
  | @hasField field =>
      obtain ⟨argument, rfl, hargument⟩ := (respaced_field_iff (by decide)).mp h
      obtain rfl := respaced_string_iff.mp hargument
      have hfield : Field.ofKey? field.key = some field := Field.ofKey?_eq_some_iff.mpr rfl
      rw [ofJson_predicate _ rfl (by decide)]
      simp only [predicate, textArgument, bind, Except.bind, hfield]
      rfl
  | isRoot =>
      obtain ⟨argument, rfl, hargument⟩ := (respaced_field_iff (by decide)).mp h
      obtain rfl := respaced_bool_iff.mp hargument
      rfl
  | parent =>
      obtain ⟨argument, rfl, hargument⟩ := (respaced_field_iff (by decide)).mp h
      obtain rfl := respaced_string_iff.mp hargument
      rfl

theorem ofJson_eq_ok_iff {document : Json} {node : Node} :
    Node.ofJson document = .ok node ↔ IsDocumentOf document node :=
  ⟨ofJson_sound, fun h => ofJson_complete h.1 h.2⟩

/-- **Query documents.**  A well-formed tree is read back from its document; what is
read is a well-formed tree whose document was given, respaced, and all such
documents are read; every other value is refused as a fault of the caller's input. -/
theorem ofJson_grammar :
    (∀ node : Node, node.WellFormed → Node.ofJson node.toJson = .ok node) ∧
      (∀ (document : Json) (node : Node), Node.ofJson document = .ok node ↔
        node.WellFormed ∧ Respaced document node.toJson) ∧
      ∀ document : Json, (¬ ∃ node : Node, node.WellFormed ∧ Respaced document node.toJson) →
        ∃ fault, Node.ofJson document = .error fault ∧ fault.toFault.kind = .invalidInput := by
  refine ⟨fun node h => ofJson_complete h (.same _), fun _ _ => ofJson_eq_ok_iff, ?_⟩
  intro document hnone
  cases hread : Node.ofJson document with
  | error fault => exact ⟨fault, rfl, rfl⟩
  | ok node => exact absurd ⟨node, ofJson_sound hread⟩ hnone

/-- Two identifiers with blanks around and between them, next to another operand. -/
theorem ofJson_grammar_respaced :
    Node.ofJson (.object [("and", .array [.object [("id", .object [("words", .string "\ta  b ")])],
        .object [("not", .object [("title", .object [("exact", .string "c d")])])]])]) =
      .ok (.join .and [.named .words ["a", "b"], .not (.search .title .exact "c d")]) := by
  have hwords : Text.words "\ta  b " = ["a", "b"] := by decide
  have hids : ∀ id ∈ ["a", "b"], Text.IsWord id.toList := by
    rw [← hwords]
    exact fun id => Text.isWord_of_mem_words
  have hwellFormed :
      Node.WellFormed (.join .and [.named .words ["a", "b"], .not (.search .title .exact "c d")]) :=
    .join (by simp) (List.forall_mem_cons.mpr
      ⟨.named hids, List.forall_mem_singleton.mpr (.not .search)⟩)
  have hspaced : Text.Spaced ["a", "b"] "\ta  b " := Text.words_eq_iff.mp hwords
  have hjoined : Text.Spaced ["a", "b"] "a b" := Text.words_eq_iff.mp (by decide)
  exact (ofJson_grammar.2.1 _ _).mpr
    ⟨hwellFormed, .field (.array (.cons (.ids hspaced hjoined) (.cons (.same _) .nil)))⟩

end RegistryClient.Query

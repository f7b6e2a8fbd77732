import RegistryClient.Proofs.FirstFault
import RegistryClient.Proofs.Json
import RegistryClient.Proofs.Query.Document

/-!
# Documents that are refused

`Document.nodes` lists the nodes of a query document, each before the nodes below it
and in the order in which they stand, and `Document.IllFormed` says of one node what
is wrong with it, whatever is below it.

The main statement is `ofJson_eq_error_iff`: a document is refused exactly when some
node of it is ill-formed, and then for what is wrong with the first such node.  It
is an induction over documents (`Document.induct`), which has one case for
connectives, one for negations, one for predicates and one for values that are no
node at all; at each of them `IllFormed` is compared with the reader once.
-/

namespace RegistryClient.Query

namespace Document

/-! ## The nodes of a document -/

mutual

/-- The nodes of a document, each before the nodes below it. -/
def nodes : Json → List Json
  | .object [(key, argument)] =>
    .object [(key, argument)] ::
      if (Connective.ofKey? key).isSome then nodesOfOperands argument
      else if key = "not" then nodes argument
      else []
  | other => [other]

/-- The nodes of a connective's operands. -/
def nodesOfOperands : Json → List Json
  | .array items => nodesOfItems items
  | _ => []

/-- The nodes of some documents, in order. -/
def nodesOfItems : List Json → List Json
  | [] => []
  | item :: rest => nodes item ++ nodesOfItems rest

end

theorem nodesOfItems_eq_flatMap (items : List Json) : nodesOfItems items = items.flatMap nodes := by
  induction items with
  | nil => rfl
  | cons item rest ih => rw [nodesOfItems, ih, List.flatMap_cons]

theorem ofItems_eq_mapM (items : List Json) : Node.ofItems items = items.mapM Node.ofJson := by
  induction items with
  | nil => rfl
  | cons item rest ih => rw [Node.ofItems, ih, List.mapM_cons]

/-! ## Induction over documents -/

/-- A value is a connective with an argument, a negation, a predicate, or no node. -/
@[elab_as_elim]
theorem induct {motive : Json → Prop}
    (connective : ∀ (connective : Connective) argument,
      (∀ items, argument = .array items → ∀ item ∈ items, motive item) →
      motive (.object [(connective.key, argument)]))
    (not : ∀ argument, motive argument → motive (.object [("not", argument)]))
    (predicate : ∀ key argument, Connective.ofKey? key = none → key ≠ "not" →
      motive (.object [(key, argument)]))
    (other : ∀ document, (∀ field, document ≠ .object [field]) → motive document)
    (document : Json) : motive document := by
  -- the operands of a connective are two levels below it, so the items of an array are carried
  suffices hboth : motive document ∧ ∀ items, document = .array items → ∀ item ∈ items, motive item
    from hboth.1
  induction document using Json.induct with
  | scalar value hscalar =>
      refine ⟨other value ?_, ?_⟩ <;> rintro _ rfl <;> cases hscalar
  | array items ih =>
      refine ⟨other _ (fun _ => by simp), ?_⟩
      rintro _ hitems item hitem
      cases hitems
      exact (ih item hitem).1
  | object fields ih =>
      refine ⟨?_, fun _ => by simp⟩
      by_cases hfield : ∃ field, fields = [field]
      · obtain ⟨⟨key, argument⟩, rfl⟩ := hfield
        have hargument := ih (key, argument) (List.mem_singleton_self _)
        cases hkey : Connective.ofKey? key with
        | some found =>
            rw [Connective.ofKey?_eq_some_iff.mp hkey]
            exact connective found argument hargument.2
        | none =>
            by_cases hnot : key = "not"
            · rw [hnot]
              exact not argument hargument.1
            · exact predicate key argument hkey hnot
      · exact other _ fun field hdocument => hfield ⟨field, Json.object.inj hdocument⟩

/-! ## What can be wrong with a node -/

/-- The value is not an object with one key. -/
inductive ShapeFault (part : String) : Json → QueryFault → Prop where
  | notAnObject {value : Json} : (∀ fields, value ≠ .object fields) →
      ShapeFault part value (.notAnObject part value)
  | notOneKey {fields : Fields} : fields.length ≠ 1 →
      ShapeFault part (.object fields) (.notOneKey part (.object fields))

/-- The argument is not an object with the key of a mode and a text there. -/
inductive ModeFault {Mode : Type} (part : String) (modeKey : Mode → String) :
    Json → QueryFault → Prop where
  | shape {argument : Json} {fault : QueryFault} : ShapeFault part argument fault →
      ModeFault part modeKey argument fault
  | unknownMode {key : String} {value : Json} : (∀ mode, key ≠ modeKey mode) →
      ModeFault part modeKey (.object [(key, value)]) (.unknownMode part key)
  | notAString {mode : Mode} {value : Json} : (∀ text, value ≠ .string text) →
      ModeFault part modeKey (.object [(modeKey mode, value)])
        (.notAString (part ++ "." ++ modeKey mode) value)

/-- The keys of the predicates whose argument is a text. -/
def textKeys : List String :=
  ["date", "before", "after", "length", "maxlength", "minlength", "exists", "parent"]

/-- The keys that have a meaning and are not those of elements. -/
def reservedKeys : List String :=
  ["and", "or", "not", "id", "isroot"] ++ textKeys

/-- The key is that of no predicate, or the predicate's argument is of the wrong kind. -/
inductive ArgumentFault : String → Json → QueryFault → Prop where
  | search {element : Element} {argument : Json} {fault : QueryFault} :
      ModeFault element.key TextMode.key argument fault →
      ArgumentFault element.key argument fault
  | named {argument : Json} {fault : QueryFault} : ModeFault "id" IdMode.key argument fault →
      ArgumentFault "id" argument fault
  | notAString {key : String} {argument : Json} : key ∈ textKeys →
      (∀ text, argument ≠ .string text) → ArgumentFault key argument (.notAString key argument)
  | unknownField {name : String} : (∀ field : Field, name ≠ field.key) →
      ArgumentFault "exists" (.string name) (.unknownField name)
  | notABoolean {argument : Json} : (∀ value, argument ≠ .bool value) →
      ArgumentFault "isroot" argument (.notABoolean argument)
  | unknownElement {key : String} {argument : Json} : key ∉ reservedKeys →
      (∀ element : Element, key ≠ element.key) →
      ArgumentFault key argument (.unknownElement key)

/-- The node itself is wrong, whatever is below it. -/
inductive IllFormed : Json → QueryFault → Prop where
  | shape {document : Json} {fault : QueryFault} : ShapeFault "query node" document fault →
      IllFormed document fault
  | notAnArray {connective : Connective} {argument : Json} : (∀ items, argument ≠ .array items) →
      IllFormed (.object [(connective.key, argument)]) (.notAnArray connective.key argument)
  | noOperands {connective : Connective} :
      IllFormed (.object [(connective.key, .array [])]) (.noOperands connective.key)
  | predicate {key : String} {argument : Json} {fault : QueryFault} :
      ArgumentFault key argument fault → IllFormed (.object [(key, argument)]) fault

theorem object_singleton_inj {key otherKey : String} {argument otherArgument : Json} :
    Json.object [(key, argument)] = .object [(otherKey, otherArgument)] ↔
      key = otherKey ∧ argument = otherArgument := by
  simp only [Json.object.injEq, List.cons.injEq, Prod.mk.injEq, and_true]

theorem not_shapeFault {part key : String} {argument : Json} {fault : QueryFault} :
    ¬ ShapeFault part (.object [(key, argument)]) fault := by
  intro h
  cases h with
  | notAnObject hobject => exact hobject _ rfl
  | notOneKey hlength => exact hlength rfl

/-- Neither a connective nor a negation is taken for a predicate. -/
theorem ArgumentFault.key_cases {key : String} {argument : Json} {fault : QueryFault}
    (h : ArgumentFault key argument fault) : Connective.ofKey? key = none ∧ key ≠ "not" := by
  cases h with
  | @search element => cases element <;> exact ⟨rfl, by decide⟩
  | named => exact ⟨rfl, by decide⟩
  | notAString hkey =>
      have hall : ∀ key ∈ textKeys, Connective.ofKey? key = none ∧ key ≠ "not" := by decide
      exact hall key hkey
  | unknownField => exact ⟨rfl, by decide⟩
  | notABoolean => exact ⟨rfl, by decide⟩
  | unknownElement hreserved =>
      refine ⟨(ofKey?_eq_none_iff Connective.ofKey?_eq_some_iff).mpr ?_, ?_⟩
      · rintro connective rfl
        cases connective <;> exact hreserved (by decide)
      · rintro rfl
        exact hreserved (by decide)

/-! ## The readers of arguments refuse what is wrong -/

theorem soleField_eq_error_iff {part : String} {value : Json} {fault : QueryFault} :
    soleField part value = .error fault ↔ ShapeFault part value fault := by
  constructor
  · intro h
    unfold soleField at h
    split at h
    · cases h
    · next fields hfields =>
      cases h
      refine .notOneKey fun hlength => ?_
      obtain ⟨field, rfl⟩ := List.length_eq_one_iff.mp hlength
      exact hfields field rfl
    · next hobject =>
      cases h
      exact .notAnObject hobject
  · intro h
    cases h with
    | notAnObject hobject => cases value <;> first | rfl | exact absurd rfl (hobject _)
    | @notOneKey fields hlength =>
        cases fields with
        | nil => rfl
        | cons field rest =>
            cases rest with
            | nil => exact absurd rfl hlength
            | cons second others => rfl

theorem textArgument_eq_error_iff {part : String} {argument : Json} {fault : QueryFault} :
    textArgument part argument = .error fault ↔
      (∀ text, argument ≠ .string text) ∧ fault = .notAString part argument := by
  cases argument <;> simp [textArgument, eq_comm]

theorem modeAndText_eq_error_iff {Mode : Type} {part : String} {ofKey? : String → Option Mode}
    {modeKey : Mode → String}
    (htable : ∀ {key : String} {mode : Mode}, ofKey? key = some mode ↔ key = modeKey mode)
    {argument : Json} {fault : QueryFault} :
    modeAndText part ofKey? argument = .error fault ↔ ModeFault part modeKey argument fault := by
  constructor
  · intro h
    rw [modeAndText, Outcome.bind_eq_error_iff, soleField_eq_error_iff] at h
    rcases h with hshape | ⟨⟨key, value⟩, hfield, h⟩
    · exact .shape hshape
    obtain rfl := soleField_eq_ok_iff.mp hfield
    cases hmode : ofKey? key with
    | none =>
        simp only [hmode] at h
        cases h
        exact .unknownMode ((ofKey?_eq_none_iff htable).mp hmode)
    | some mode =>
        obtain rfl := htable.mp hmode
        simp only [hmode, Outcome.bind_eq_error_iff, textArgument_eq_error_iff] at h
        rcases h with ⟨htext, rfl⟩ | ⟨text, -, h⟩
        · exact .notAString htext
        · cases h
  · intro h
    rw [modeAndText, Outcome.bind_eq_error_iff, soleField_eq_error_iff]
    cases h with
    | shape hshape => exact Or.inl hshape
    | @unknownMode key value hkey =>
        have hmode : ofKey? key = none := (ofKey?_eq_none_iff htable).mpr hkey
        refine Or.inr ⟨(key, value), rfl, ?_⟩
        simp only [hmode]
    | @notAString mode value htext =>
        refine Or.inr ⟨(modeKey mode, value), rfl, ?_⟩
        simp only [htable.mpr rfl]
        exact Outcome.bind_eq_error_iff.mpr
          (Or.inl (textArgument_eq_error_iff.mpr ⟨htext, rfl⟩))

/-! ## The reader of predicates refuses what is wrong -/

theorem predicate_of_textKey {key : String} {argument : Json} (hkey : key ∈ textKeys)
    (htext : ∀ text, argument ≠ .string text) :
    predicate key argument = .error (.notAString key argument) := by
  have hargument : ∀ part, textArgument part argument = .error (.notAString part argument) :=
    fun part => textArgument_eq_error_iff.mpr ⟨htext, rfl⟩
  have hall : ∀ key ∈ textKeys, predicate key argument = .error (.notAString key argument) := by
    simp only [textKeys, List.forall_mem_cons, List.not_mem_nil, false_implies, implies_true,
      and_true]
    refine ⟨?_, ?_, ?_, ?_, ?_, ?_, ?_, ?_⟩ <;>
      · simp only [predicate, hargument]
        rfl
  exact hall key hkey

theorem argumentFault_of_predicate {key : String} {argument : Json} {fault : QueryFault}
    (hconnective : Connective.ofKey? key = none) (hnot : key ≠ "not")
    (h : predicate key argument = .error fault) : ArgumentFault key argument fault := by
  unfold predicate at h
  split at h
  case h_1 =>
    rcases Outcome.bind_eq_error_iff.mp h with hmode | ⟨_, _, hdone⟩
    · exact .named ((modeAndText_eq_error_iff IdMode.ofKey?_eq_some_iff).mp hmode)
    · cases hdone
  case h_8 =>
    rcases Outcome.bind_eq_error_iff.mp h with hname | ⟨name, hname, hfield⟩
    · obtain ⟨htext, rfl⟩ := textArgument_eq_error_iff.mp hname
      exact .notAString (by decide) htext
    · obtain rfl := textArgument_eq_ok_iff.mp hname
      cases hfound : Field.ofKey? name with
      | some field => simp [hfound, pure, Except.pure] at hfield
      | none =>
          simp only [hfound] at hfield
          cases hfield
          exact .unknownField ((ofKey?_eq_none_iff Field.ofKey?_eq_some_iff).mp hfound)
  case h_9 =>
    split at h
    · cases h
    · next hbool =>
      cases h
      exact .notABoolean hbool
  case h_11 =>
    split at h
    · next element helement =>
      obtain rfl := Element.ofKey?_eq_some_iff.mp helement
      rcases Outcome.bind_eq_error_iff.mp h with hmode | ⟨_, _, hdone⟩
      · exact .search ((modeAndText_eq_error_iff TextMode.ofKey?_eq_some_iff).mp hmode)
      · cases hdone
    · next hnone =>
      cases h
      refine .unknownElement ?_ ((ofKey?_eq_none_iff Element.ofKey?_eq_some_iff).mp hnone)
      have hkeys := (ofKey?_eq_none_iff Connective.ofKey?_eq_some_iff).mp hconnective
      have hand : key ≠ "and" := hkeys .and
      have hor : key ≠ "or" := hkeys .or
      simp_all [reservedKeys, textKeys]
  -- dates, lengths and parents are given as texts
  all_goals
    obtain ⟨htext, rfl⟩ := textArgument_eq_error_iff.mp (Outcome.map_eq_error_iff.mp h)
    exact .notAString (by decide) htext

theorem ofJson_of_argumentFault {key : String} {argument : Json} {fault : QueryFault}
    (h : ArgumentFault key argument fault) :
    Node.ofJson (.object [(key, argument)]) = .error fault := by
  obtain ⟨hconnective, hnot⟩ := h.key_cases
  cases h with
  | search hmode =>
      rw [ofJson_element, Outcome.map_eq_error_iff]
      exact (modeAndText_eq_error_iff TextMode.ofKey?_eq_some_iff).mpr hmode
  | named hmode =>
      rw [ofJson_predicate argument hconnective hnot, predicate, Outcome.bind_eq_error_iff]
      exact Or.inl ((modeAndText_eq_error_iff IdMode.ofKey?_eq_some_iff).mpr hmode)
  | notAString hkey htext =>
      rw [ofJson_predicate argument hconnective hnot, predicate_of_textKey hkey htext]
  | @unknownField name hname =>
      have hfield : Field.ofKey? name = none :=
        (ofKey?_eq_none_iff Field.ofKey?_eq_some_iff).mpr hname
      rw [ofJson_predicate _ hconnective hnot]
      simp only [predicate, textArgument, bind, Except.bind, hfield]
  | notABoolean hbool =>
      rw [ofJson_predicate argument hconnective hnot]
      cases argument <;> first | rfl | exact absurd rfl (hbool _)
  | unknownElement hreserved hkey =>
      have helement : Element.ofKey? key = none :=
        (ofKey?_eq_none_iff Element.ofKey?_eq_some_iff).mpr hkey
      rw [ofJson_predicate argument hconnective hnot]
      simp only [reservedKeys, textKeys, List.cons_append, List.nil_append, List.mem_cons,
        List.not_mem_nil, or_false, not_or] at hreserved
      simp [predicate, hreserved, helement]

theorem ofJson_predicate_eq_error_iff {key : String} {argument : Json} {fault : QueryFault}
    (hconnective : Connective.ofKey? key = none) (hnot : key ≠ "not") :
    Node.ofJson (.object [(key, argument)]) = .error fault ↔ ArgumentFault key argument fault := by
  refine ⟨fun h => ?_, ofJson_of_argumentFault⟩
  rw [ofJson_predicate argument hconnective hnot] at h
  exact argumentFault_of_predicate hconnective hnot h

/-! ## One node at a time

What `nodes` and `IllFormed` say of a node with a given key. -/

theorem nodes_connective (connective : Connective) (argument : Json) :
    nodes (.object [(connective.key, argument)]) =
      .object [(connective.key, argument)] :: nodesOfOperands argument := by
  rw [nodes, Connective.ofKey?_eq_some_iff.mpr rfl]
  rfl

theorem nodes_not (argument : Json) :
    nodes (.object [("not", argument)]) = .object [("not", argument)] :: nodes argument := by
  rw [nodes]
  rfl

theorem nodes_predicate {key : String} (argument : Json)
    (hconnective : Connective.ofKey? key = none) (hnot : key ≠ "not") :
    nodes (.object [(key, argument)]) = [.object [(key, argument)]] := by
  rw [nodes, hconnective, if_neg hnot]
  rfl

theorem nodes_other {document : Json} (hfield : ∀ field, document ≠ .object [field]) :
    nodes document = [document] := by
  unfold nodes
  split
  · exact absurd rfl (hfield _)
  · rfl

theorem illFormed_connective_iff {connective : Connective} {argument : Json}
    {fault : QueryFault} :
    IllFormed (.object [(connective.key, argument)]) fault ↔
      (∀ items, argument ≠ .array items) ∧ fault = .notAnArray connective.key argument ∨
        argument = .array [] ∧ fault = .noOperands connective.key := by
  constructor
  · generalize hdocument : Json.object [(connective.key, argument)] = document
    intro h
    cases h with
    | shape hshape =>
        subst hdocument
        exact absurd hshape not_shapeFault
    | notAnArray harray =>
        obtain ⟨hkey, rfl⟩ := object_singleton_inj.mp hdocument
        exact Or.inl ⟨harray, by rw [hkey]⟩
    | noOperands =>
        obtain ⟨hkey, rfl⟩ := object_singleton_inj.mp hdocument
        exact Or.inr ⟨rfl, by rw [hkey]⟩
    | predicate hfault =>
        obtain ⟨rfl, rfl⟩ := object_singleton_inj.mp hdocument
        have hnone := hfault.key_cases.1
        rw [Connective.ofKey?_eq_some_iff.mpr rfl] at hnone
        cases hnone
  · rintro (⟨harray, rfl⟩ | ⟨rfl, rfl⟩)
    · exact .notAnArray harray
    · exact .noOperands

theorem not_illFormed_not {argument : Json} {fault : QueryFault} :
    ¬ IllFormed (.object [("not", argument)]) fault := by
  generalize hdocument : Json.object [("not", argument)] = document
  intro h
  cases h with
  | shape hshape =>
      subst hdocument
      exact not_shapeFault hshape
  | @notAnArray connective | @noOperands connective =>
      have hkey := (object_singleton_inj.mp hdocument).1
      cases connective <;> exact absurd hkey (by decide)
  | predicate hfault => exact hfault.key_cases.2 (object_singleton_inj.mp hdocument).1.symm

theorem illFormed_predicate_iff {key : String} {argument : Json} {fault : QueryFault}
    (hconnective : Connective.ofKey? key = none) :
    IllFormed (.object [(key, argument)]) fault ↔ ArgumentFault key argument fault := by
  refine ⟨fun h => ?_, .predicate⟩
  cases h with
  | shape hshape => exact absurd hshape not_shapeFault
  | notAnArray | noOperands =>
      rw [Connective.ofKey?_eq_some_iff.mpr rfl] at hconnective
      cases hconnective
  | predicate hfault => exact hfault

theorem illFormed_other_iff {document : Json} {fault : QueryFault}
    (hfield : ∀ field, document ≠ .object [field]) :
    IllFormed document fault ↔ ShapeFault "query node" document fault := by
  refine ⟨fun h => ?_, .shape⟩
  cases h with
  | shape hshape => exact hshape
  | _ => exact absurd rfl (hfield _)

theorem ofJson_other_eq_error_iff {document : Json} {fault : QueryFault}
    (hfield : ∀ field, document ≠ .object [field]) :
    Node.ofJson document = .error fault ↔ ShapeFault "query node" document fault := by
  rw [← soleField_eq_error_iff]
  cases document with
  | object fields =>
      cases fields with
      | nil => simp [Node.ofJson, soleField]
      | cons field rest =>
          cases rest with
          | nil => exact absurd rfl (hfield field)
          | cons second others => simp [Node.ofJson, soleField]
  | _ => simp [Node.ofJson, soleField]

/-! ## Documents -/

theorem ofOperands_eq_error_iff {connective : Connective} {argument : Json}
    (ih : ∀ items, argument = .array items → ∀ item ∈ items, ∀ fault,
      Node.ofJson item = .error fault ↔ FirstFault IllFormed (nodes item) fault)
    {fault : QueryFault} :
    Node.ofOperands connective.key argument = .error fault ↔
      FirstFault IllFormed (nodes (.object [(connective.key, argument)])) fault := by
  rw [nodes_connective, firstFault_cons_iff]
  simp only [illFormed_connective_iff]
  cases argument with
  | array items =>
      cases items with
      | nil =>
          simp [Node.ofOperands, nodesOfOperands, nodesOfItems, not_firstFault_nil, eq_comm]
      | cons item rest =>
          -- the node itself is in order, so only the operands decide
          have hread : Node.ofOperands connective.key (.array (item :: rest)) =
              (item :: rest).mapM Node.ofJson := by
            rw [Node.ofOperands, ofItems_eq_mapM]
          rw [hread, mapM_eq_error_iff (ih _ rfl), nodesOfOperands, nodesOfItems_eq_flatMap]
          simp
  | _ => simp [Node.ofOperands, nodesOfOperands, not_firstFault_nil, eq_comm]

/-- **A document is refused for what is wrong with the first of its ill-formed nodes.** -/
theorem ofJson_eq_error_iff {document : Json} {fault : QueryFault} :
    Node.ofJson document = .error fault ↔ FirstFault IllFormed (nodes document) fault := by
  induction document using Document.induct generalizing fault with
  | connective connective argument ih =>
      rw [ofJson_connective, Outcome.map_eq_error_iff]
      exact ofOperands_eq_error_iff fun items hitems item hitem _ => ih items hitems item hitem
  | not argument ih =>
      rw [ofJson_not, Outcome.map_eq_error_iff, nodes_not, firstFault_cons_iff, ih]
      simp only [not_illFormed_not, not_false_eq_true, implies_true, true_and, false_or]
  | predicate key argument hconnective hnot =>
      rw [ofJson_predicate_eq_error_iff hconnective hnot, nodes_predicate argument hconnective hnot,
        firstFault_singleton_iff, illFormed_predicate_iff hconnective]
  | other document hfield =>
      rw [ofJson_other_eq_error_iff hfield, nodes_other hfield, firstFault_singleton_iff,
        illFormed_other_iff hfield]

end Document

end RegistryClient.Query

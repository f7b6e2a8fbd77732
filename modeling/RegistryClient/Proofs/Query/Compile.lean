import RegistryClient.Proofs.Outcome
import RegistryClient.Proofs.Query.Expression

/-!
# What compiling a query writes

The main statement is `compile_eq_ok_iff`: a query is compiled exactly when it is
`Node.Valid`, and then to its expression tree, written down.  `Node.Valid` says
without reference to compiling that every predicate has a meaning and that every
connective has an operand.

The tree of a valid query is `Expression.Proper` (`Node.Valid.proper`), which is
all that reading it back needs to know about its shape.
-/

namespace RegistryClient.Query

/-! ## Valid queries -/

/-- Every predicate of the query has a meaning, and every connective an operand. -/
inductive Node.Valid : Node → Prop where
  | join {connective : Connective} {operands : List Node} : operands ≠ [] →
      (∀ operand ∈ operands, Valid operand) → Valid (.join connective operands)
  | not {operand : Node} : Valid operand → Valid (.not operand)
  | search {element : Element} {mode : TextMode} {text : String} : Text.words text ≠ [] →
      Valid (.search element mode text)
  | named {mode : IdMode} {ids : List String} : ids ≠ [] →
      (∀ id ∈ ids, Identifier.isValid id = true) → (mode = .exact → ids.length = 1) →
      Valid (.named mode ids)
  | date {bound : Bound} {value : String} : Text.trim value ≠ "" → Valid (.date bound value)
  | length {bound : Bound} {value : String} : Text.trim value ≠ "" → Valid (.length bound value)
  | hasField {field : Field} : field.paths.length = 1 → Valid (.hasField field)
  | isRoot {expected : Bool} : Valid (.isRoot expected)
  | parent {id : String} : Identifier.isValid id = true → Valid (.parent id)

/-! ## Compiling the predicates -/

theorem texts_searchTests (paths : List String) (mode : TextMode) (words : List String) :
    Expression.texts (searchTests paths mode words) = searchLeaves paths mode words := by
  rw [Expression.texts_eq_map]
  cases mode <;>
    simp [searchTests, searchLeaves, Expression.text, List.map_flatMap, Function.comp_def]

theorem searchTests_ne_nil (element : Element) (mode : TextMode) {words : List String}
    (hwords : words ≠ []) : searchTests element.paths mode words ≠ [] := by
  obtain ⟨path, hpath⟩ := List.exists_mem_of_ne_nil _ (paths_ne_nil element)
  obtain ⟨word, hword⟩ := List.exists_mem_of_ne_nil _ hwords
  cases mode with
  | words =>
      exact List.ne_nil_of_mem (List.mem_flatMap.mpr ⟨path, hpath, List.mem_map_of_mem hword⟩)
  | contains => exact List.ne_nil_of_mem (List.mem_map_of_mem hpath)
  | exact => exact List.ne_nil_of_mem (List.mem_map_of_mem hpath)

theorem compileSearch_eq_ok_iff {element : Element} {mode : TextMode} {text expression : String} :
    compileSearch element mode text = .ok expression ↔
      Text.words text ≠ [] ∧ expression = (Node.search element mode text).expression.text := by
  by_cases hwords : Text.words text = []
  · simp [compileSearch, hwords]
  · have hcompile : compileSearch element mode text =
        .ok (Node.search element mode text).expression.text := by
      rw [compileSearch, if_neg (by simpa using hwords), ← texts_searchTests,
        Expression.join_texts .or (searchTests_ne_nil element mode hwords)]
      rfl
    rw [hcompile, Except.ok.injEq]
    exact ⟨fun h => ⟨hwords, h.symm⟩, fun h => h.2.symm⟩

theorem requireIdentifier_eq_ok_iff {id : String} {done : Unit} :
    requireIdentifier id = .ok done ↔ Identifier.isValid id = true := by
  unfold requireIdentifier
  split <;> simp_all

theorem requireIdentifiers_eq_ok_iff {ids : List String} {done : Unit} :
    requireIdentifiers ids = .ok done ↔ ∀ id ∈ ids, Identifier.isValid id = true := by
  induction ids with
  | nil => simp [requireIdentifiers]
  | cons id rest ih =>
      rw [requireIdentifiers, Outcome.bind_eq_ok_iff, List.forall_mem_cons, ← ih]
      simp [requireIdentifier_eq_ok_iff]

theorem compileNamed_words_eq_ok_iff {ids : List String} {expression : String} :
    compileNamed .words ids = .ok expression ↔
      (ids ≠ [] ∧ ∀ id ∈ ids, Identifier.isValid id = true) ∧
        expression = (Node.named .words ids).expression.text := by
  cases ids with
  | nil => simp [compileNamed, bind, Except.bind]
  | cons id rest =>
      have hcompile : compileNamed .words (id :: rest) = (do
          requireIdentifiers (id :: rest)
          join .or ((id :: rest).map fun id => leaf idPath (.loose id))) := rfl
      rw [hcompile, Expression.join_map_leaf .or _ _ (List.cons_ne_nil _ _), Outcome.bind_eq_ok_iff]
      simp only [requireIdentifiers_eq_ok_iff, Except.ok.injEq, ne_eq, reduceCtorEq,
        not_false_eq_true, true_and, exists_const]
      exact and_congr_right fun _ => eq_comm

theorem compileNamed_exact_eq_ok_iff {ids : List String} {expression : String} :
    compileNamed .exact ids = .ok expression ↔
      ((∀ id ∈ ids, Identifier.isValid id = true) ∧ ids.length = 1) ∧
        expression = (Node.named .exact ids).expression.text := by
  match ids with
  | [] => simp [compileNamed, bind, Except.bind]
  | [id] =>
      have hcompile : compileNamed .exact [id] = (do
          requireIdentifiers [id]
          return leaf idPath (.exact id)) := rfl
      rw [hcompile, Outcome.bind_eq_ok_iff]
      simp only [requireIdentifiers_eq_ok_iff, pure, Except.pure, Except.ok.injEq, exists_const,
        List.length_singleton, and_true]
      exact and_congr_right fun _ => eq_comm
  | first :: second :: rest =>
      -- refused even when every one of them is valid
      have hcompile : compileNamed .exact (first :: second :: rest) = (do
          requireIdentifiers (first :: second :: rest)
          .error (.severalIdentifiers (first :: second :: rest))) := rfl
      rw [hcompile, Outcome.bind_eq_ok_iff]
      simp

theorem compileNamed_eq_ok_iff {mode : IdMode} {ids : List String} {expression : String} :
    compileNamed mode ids = .ok expression ↔
      (ids ≠ [] ∧ (∀ id ∈ ids, Identifier.isValid id = true) ∧
        (mode = .exact → ids.length = 1)) ∧
        expression = (Node.named mode ids).expression.text := by
  cases mode with
  | words => simp [compileNamed_words_eq_ok_iff]
  | exact =>
      have hne : ids.length = 1 → ids ≠ [] := by
        rintro hlength rfl
        simp at hlength
      rw [compileNamed_exact_eq_ok_iff]
      refine and_congr_left fun _ => ⟨fun h => ⟨hne h.2, h.1, fun _ => h.2⟩, fun h => ?_⟩
      exact ⟨h.2.1, h.2.2 rfl⟩

theorem compileBound_eq_ok_iff {part path value expression : String} {bound : Bound} :
    compileBound part path bound value = .ok expression ↔
      Text.trim value ≠ "" ∧
        expression = (Expression.leaf path (bound.test (Text.trim value))).text := by
  by_cases hvalue : Text.trim value = ""
  · simp [compileBound, hvalue]
  · rw [compileBound, if_neg hvalue, Except.ok.injEq, Expression.text]
    exact ⟨fun h => ⟨hvalue, h.symm⟩, fun h => h.2.symm⟩

theorem singlePath?_eq_some_iff {element : Element} {path : String} :
    element.singlePath? = some path ↔ element.paths = [path] := by
  unfold Element.singlePath?
  split
  · next only hpaths => simp [hpaths]
  · next hpaths => simpa using hpaths path

theorem compileHasField_eq_ok_iff {field : Field} {expression : String} :
    compileHasField field = .ok expression ↔
      field.paths.length = 1 ∧ expression = (Node.hasField field).expression.text := by
  cases field with
  | date => exact ⟨fun h => ⟨rfl, (Except.ok.inj h).symm⟩, fun h => congrArg Except.ok h.2.symm⟩
  | length => exact ⟨fun h => ⟨rfl, (Except.ok.inj h).symm⟩, fun h => congrArg Except.ok h.2.symm⟩
  | element searched =>
      rw [compileHasField, Field.paths, Node.expression, Field.paths]
      cases hsingle : searched.singlePath? with
      | some path =>
          rw [singlePath?_eq_some_iff.mp hsingle]
          exact ⟨fun h => ⟨rfl, (Except.ok.inj h).symm⟩, fun h => congrArg Except.ok h.2.symm⟩
      | none =>
          refine ⟨fun h => by simp at h, ?_⟩
          rintro ⟨hlength, -⟩
          obtain ⟨path, hpath⟩ := List.length_eq_one_iff.mp hlength
          rw [singlePath?_eq_some_iff.mpr hpath] at hsingle
          exact absurd hsingle (by simp)

theorem compileDerived_eq : compileDerived = .ok derivedExpression.text :=
  Expression.join_map_leaf .or _ _ (by simp [derivationBlocks])

theorem compile_isRoot (expected : Bool) :
    (Node.isRoot expected).compile = .ok (Node.isRoot expected).expression.text := by
  -- stated for any tree, so that the five leaves are never written out
  have hany : ∀ tree : Expression,
      (do
        let derived ← Except.ok tree.text
        if expected then negate derived else return derived) =
        Except.ok (if expected then Expression.not tree else tree).text := by
    intro tree
    cases expected with
    | false => simp only [bind, Except.bind, pure, Except.pure, Bool.false_eq_true, if_false]
    | true => simp only [bind, Except.bind, if_true, Expression.negate_text]
  rw [Node.compile, compileDerived_eq, Node.expression]
  exact hany derivedExpression

theorem compileParent_eq_ok_iff {id expression : String} :
    compileParent id = .ok expression ↔
      Identifier.isValid id = true ∧ expression = (Node.parent id).expression.text := by
  have hne : derivationBlocks ≠ [] := by simp [derivationBlocks]
  have hjoin := Expression.join_map_leaf .or
    (fun block => Branch.extra.path (block ++ "/Parent")) (fun _ => .loose id) hne
  rw [compileParent, Outcome.bind_eq_ok_iff, hjoin]
  simp only [requireIdentifier_eq_ok_iff, Except.ok.injEq, exists_const]
  exact and_congr_right fun _ => eq_comm

/-! ## Compiling a query -/

theorem compileAll_eq_ok_iff {operands : List Node}
    (ih : ∀ operand ∈ operands, ∀ {expression : String},
      operand.compile = .ok expression ↔ operand.Valid ∧ expression = operand.expression.text)
    {terms : List String} :
    Node.compileAll operands = .ok terms ↔
      (∀ operand ∈ operands, operand.Valid) ∧
        terms = Expression.texts (Node.expressions operands) := by
  induction operands generalizing terms with
  | nil => simp [Node.compileAll, Node.expressions, Expression.texts, eq_comm]
  | cons operand rest ihrest =>
      obtain ⟨hfirst, hothers⟩ := List.forall_mem_cons.mp ih
      rw [Node.compileAll, Outcome.bind_eq_ok_iff, List.forall_mem_cons]
      simp only [hfirst, Outcome.bind_eq_ok_iff, ihrest hothers]
      constructor
      · rintro ⟨term, ⟨hvalid, rfl⟩, others, ⟨hall, rfl⟩, h⟩
        exact ⟨⟨hvalid, hall⟩, (Except.ok.inj h).symm⟩
      · rintro ⟨⟨hvalid, hall⟩, rfl⟩
        exact ⟨_, ⟨hvalid, rfl⟩, _, ⟨hall, rfl⟩, rfl⟩

theorem join_texts_expressions (connective : Connective) {operands : List Node}
    (hne : operands ≠ []) :
    Query.join connective (Expression.texts (Node.expressions operands)) =
      .ok (Node.join connective operands).expression.text :=
  Expression.join_texts connective (by simpa [Node.expressions_eq_map] using hne)

/-- **A query is compiled exactly when it is valid, and then to its expression tree.** -/
theorem compile_eq_ok_iff {node : Node} {expression : String} :
    node.compile = .ok expression ↔ node.Valid ∧ expression = node.expression.text := by
  induction node generalizing expression with
  | join connective operands ih =>
      rw [Node.compile, Outcome.bind_eq_ok_iff]
      simp only [compileAll_eq_ok_iff ih]
      constructor
      · rintro ⟨terms, ⟨hall, rfl⟩, h⟩
        -- only the joining refuses a connective without operands
        have hne : operands ≠ [] := by
          rintro rfl
          cases h
        rw [join_texts_expressions connective hne] at h
        exact ⟨.join hne hall, (Except.ok.inj h).symm⟩
      · rintro ⟨hvalid, rfl⟩
        cases hvalid with
        | join hne hall => exact ⟨_, ⟨hall, rfl⟩, join_texts_expressions connective hne⟩
  | not operand ih =>
      rw [Node.compile, Outcome.bind_eq_ok_iff]
      simp only [ih]
      constructor
      · rintro ⟨term, ⟨hvalid, rfl⟩, h⟩
        rw [Expression.negate_text] at h
        exact ⟨.not hvalid, (Except.ok.inj h).symm⟩
      · rintro ⟨hvalid, rfl⟩
        cases hvalid with
        | not hoperand => exact ⟨_, ⟨hoperand, rfl⟩, Expression.negate_text _⟩
  | search element mode text =>
      rw [Node.compile, compileSearch_eq_ok_iff]
      exact and_congr_left fun _ => ⟨.search, fun h => by cases h; assumption⟩
  | named mode ids =>
      rw [Node.compile, compileNamed_eq_ok_iff]
      exact and_congr_left fun _ =>
        ⟨fun h => .named h.1 h.2.1 h.2.2, fun h => by cases h; exact ⟨‹_›, ‹_›, ‹_›⟩⟩
  | date bound value =>
      rw [Node.compile, compileBound_eq_ok_iff]
      exact and_congr_left fun _ => ⟨.date, fun h => by cases h; assumption⟩
  | length bound value =>
      rw [Node.compile, compileBound_eq_ok_iff]
      exact and_congr_left fun _ => ⟨.length, fun h => by cases h; assumption⟩
  | hasField field =>
      rw [Node.compile, compileHasField_eq_ok_iff]
      exact and_congr_left fun _ => ⟨.hasField, fun h => by cases h; assumption⟩
  | isRoot expected =>
      rw [compile_isRoot, Except.ok.injEq]
      exact ⟨fun h => ⟨.isRoot, h.symm⟩, fun h => h.2.symm⟩
  | parent id =>
      rw [Node.compile, compileParent_eq_ok_iff]
      exact and_congr_left fun _ => ⟨.parent, fun h => by cases h; assumption⟩

/-! ## The shape of a query's tree -/

/-- Every leaf tests a field, and every connective joins at least two operands. -/
inductive Expression.Proper : Expression → Prop where
  | leaf {path : String} {test : Test} : IsFieldPath path → Proper (.leaf path test)
  | not {operand : Expression} : Proper operand → Proper (.not operand)
  | join {connective : Connective} {operands : List Expression} : 2 ≤ operands.length →
      (∀ operand ∈ operands, Proper operand) → Proper (.join connective operands)

namespace Expression

theorem proper_joined {connective : Connective} {operands : List Expression} (hne : operands ≠ [])
    (h : ∀ operand ∈ operands, Proper operand) : Proper (joined connective operands) := by
  match operands, hne with
  | [operand], _ => exact h operand (List.mem_singleton_self operand)
  | _ :: _ :: _, _ => exact .join (by simp) h

theorem proper_joined_map {α : Type} {connective : Connective} {members : List α}
    {path : α → String} {test : α → Test} (hne : members ≠ [])
    (hpath : ∀ member ∈ members, IsFieldPath (path member)) :
    Proper (joined connective (members.map fun member => leaf (path member) (test member))) := by
  refine proper_joined (by simpa using hne) ?_
  intro operand hoperand
  obtain ⟨member, hmember, rfl⟩ := List.mem_map.mp hoperand
  exact .leaf (hpath member hmember)

end Expression

theorem proper_of_mem_searchTests {element : Element} {mode : TextMode} {words : List String}
    {operand : Expression} (h : operand ∈ searchTests element.paths mode words) :
    operand.Proper := by
  cases mode with
  | words =>
      obtain ⟨path, hpath, hleaf⟩ := List.mem_flatMap.mp h
      obtain ⟨word, -, rfl⟩ := List.mem_map.mp hleaf
      exact .leaf (isFieldPath_of_mem_paths hpath)
  | contains =>
      obtain ⟨path, hpath, rfl⟩ := List.mem_map.mp h
      exact .leaf (isFieldPath_of_mem_paths hpath)
  | exact =>
      obtain ⟨path, hpath, rfl⟩ := List.mem_map.mp h
      exact .leaf (isFieldPath_of_mem_paths hpath)

theorem Field.isFieldPath_of_mem_paths {field : Field} {path : String} (h : path ∈ field.paths) :
    IsFieldPath path := by
  cases field with
  | date => exact List.mem_singleton.mp h ▸ isFieldPath_releaseDatePath
  | length => exact List.mem_singleton.mp h ▸ isFieldPath_lengthPath
  | element searched => exact Query.isFieldPath_of_mem_paths h

theorem proper_derivedExpression : derivedExpression.Proper :=
  Expression.proper_joined_map (by simp [derivationBlocks]) fun _ => isFieldPath_derivationBlock

/-- The tree of a valid query has the right shape. -/
theorem Node.Valid.proper {node : Node} (h : node.Valid) : node.expression.Proper := by
  induction h with
  | join hne _ ih =>
      rw [expression, expressions_eq_map]
      refine Expression.proper_joined (by simpa using hne) ?_
      intro tree htree
      obtain ⟨operand, hoperand, rfl⟩ := List.mem_map.mp htree
      exact ih operand hoperand
  | not _ ih => exact .not ih
  | search hwords =>
      exact Expression.proper_joined (searchTests_ne_nil _ _ hwords)
        fun operand => proper_of_mem_searchTests
  | named hne => exact Expression.proper_joined_map hne fun _ _ => isFieldPath_idPath
  | date => exact .leaf isFieldPath_releaseDatePath
  | length => exact .leaf isFieldPath_lengthPath
  | hasField hlength =>
      exact Expression.proper_joined_map (List.ne_nil_of_length_pos (by omega))
        fun _ => Field.isFieldPath_of_mem_paths
  | @isRoot expected =>
      cases expected with
      | false => exact proper_derivedExpression
      | true => exact .not proper_derivedExpression
  | parent =>
      exact Expression.proper_joined_map (by simp [derivationBlocks])
        fun _ => isFieldPath_derivationParent

end RegistryClient.Query

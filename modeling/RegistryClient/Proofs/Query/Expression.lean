import RegistryClient.Proofs.Query.Path
import RegistryClient.Proofs.Text.Words

/-!
# The expression tree of a query

An `Expression` is what an expression of the query language says, before it is
written down: tests of fields, negated and joined.  `Node.expression` gives the
tree that a query tree stands for, and `Expression.text` writes a tree.

A written tree begins and ends with a parenthesis, so the trimming that `join`
and `negate` do leaves it alone, and their refusal of blank operands never
happens: `join_texts` and `negate_text` say that they write the joined and the
negated tree.
-/

namespace RegistryClient.Query

/-! ## Trees -/

/-- What an expression says. -/
inductive Expression where
  | leaf (path : String) (test : Test)
  | not (operand : Expression)
  | join (connective : Connective) (operands : List Expression)

namespace Expression

/-- Induction over trees: of the operands of a connective each one has the property. -/
@[elab_as_elim, induction_eliminator]
theorem induct {motive : Expression → Prop}
    (leaf : ∀ path test, motive (.leaf path test))
    (not : ∀ operand, motive operand → motive (.not operand))
    (join : ∀ connective operands, (∀ operand ∈ operands, motive operand) →
      motive (.join connective operands))
    (expression : Expression) : motive expression :=
  @Expression.rec motive (fun operands => ∀ operand ∈ operands, motive operand)
    leaf not join (by simp)
    (fun _ _ hfirst hrest => List.forall_mem_cons.mpr ⟨hfirst, hrest⟩) expression

mutual

/-- The tree written in the query language. -/
def text : Expression → String
  | .leaf path test => Query.leaf path test
  | .not operand => "(NOT " ++ operand.text ++ ")"
  | .join connective operands =>
    "(" ++ Text.joinWith (" " ++ connective.word ++ " ") (texts operands) ++ ")"

/-- Each of some trees written. -/
def texts : List Expression → List String
  | [] => []
  | operand :: rest => operand.text :: texts rest

end

mutual

/-- The tests of a tree with the fields they are put to, from left to right. -/
def leaves : Expression → List (String × Test)
  | .leaf path test => [(path, test)]
  | .not operand => operand.leaves
  | .join _ operands => leavesOfAll operands

/-- The tests of each of some trees, in order. -/
def leavesOfAll : List Expression → List (String × Test)
  | [] => []
  | operand :: rest => operand.leaves ++ leavesOfAll rest

end

theorem texts_eq_map (operands : List Expression) : texts operands = operands.map text := by
  induction operands with
  | nil => rfl
  | cons operand rest ih => rw [texts, ih, List.map_cons]

theorem leavesOfAll_eq_flatMap (operands : List Expression) :
    leavesOfAll operands = operands.flatMap leaves := by
  induction operands with
  | nil => rfl
  | cons operand rest ih => rw [leavesOfAll, ih, List.flatMap_cons]

theorem mem_leaves_join {connective : Connective} {operands : List Expression}
    {operand : Expression} {leaf : String × Test} (hoperand : operand ∈ operands)
    (hleaf : leaf ∈ operand.leaves) : leaf ∈ (join connective operands).leaves := by
  rw [leaves, leavesOfAll_eq_flatMap]
  exact List.mem_flatMap.mpr ⟨operand, hoperand, hleaf⟩

/-- The tree that joins some trees; a single one is that tree itself. -/
def joined (connective : Connective) : List Expression → Expression
  | [operand] => operand
  | operands => .join connective operands

end Expression

/-! ## The tree of a query -/

/-- The tests of a search, put to each field in turn. -/
def searchTests (paths : List String) (mode : TextMode) (words : List String) : List Expression :=
  match mode with
  | .words => paths.flatMap fun path => words.map fun word => .leaf path (.loose word)
  | .contains => paths.map fun path => .leaf path (.loose (Text.joinWith " " words))
  | .exact => paths.map fun path => .leaf path (.exact (Text.joinWith " " words))

/-- How an identifier is tested. -/
def IdMode.test (mode : IdMode) (id : String) : Test :=
  match mode with
  | .words => .loose id
  | .exact => .exact id

/-- The fields of which one is present when the field named is. -/
def Field.paths : Field → List String
  | .date => [releaseDatePath]
  | .length => [lengthPath]
  | .element searched => searched.paths

/-- The record is derived from some other one. -/
def derivedExpression : Expression :=
  .joined .or (derivationBlocks.map fun block => .leaf (Branch.extra.path block) .present)

namespace Node

mutual

/-- What a query tree says. -/
def expression : Node → Expression
  | .join connective operands => .joined connective (expressions operands)
  | .not operand => .not operand.expression
  | .search element mode text => .joined .or (searchTests element.paths mode (Text.words text))
  | .named mode ids => .joined .or (ids.map fun id => .leaf idPath (mode.test id))
  | .date bound value => .leaf releaseDatePath (bound.test (Text.trim value))
  | .length bound value => .leaf lengthPath (bound.test (Text.trim value))
  | .hasField field => .joined .or (field.paths.map fun path => .leaf path .present)
  | .isRoot expected => if expected then .not derivedExpression else derivedExpression
  | .parent id => .joined .or (derivationBlocks.map fun block =>
      .leaf (Branch.extra.path (block ++ "/Parent")) (.loose id))

/-- What each of some query trees says. -/
def expressions : List Node → List Expression
  | [] => []
  | operand :: rest => operand.expression :: expressions rest

end

theorem expressions_eq_map (operands : List Node) : expressions operands = operands.map expression := by
  induction operands with
  | nil => rfl
  | cons operand rest ih => rw [expressions, ih, List.map_cons]

/-- Induction over query trees: of the operands of a connective each one has the property. -/
@[elab_as_elim, induction_eliminator]
theorem induct {motive : Node → Prop}
    (join : ∀ connective operands, (∀ operand ∈ operands, motive operand) →
      motive (.join connective operands))
    (not : ∀ operand, motive operand → motive (.not operand))
    (search : ∀ element mode text, motive (.search element mode text))
    (named : ∀ mode ids, motive (.named mode ids))
    (date : ∀ bound value, motive (.date bound value))
    (length : ∀ bound value, motive (.length bound value))
    (hasField : ∀ field, motive (.hasField field))
    (isRoot : ∀ expected, motive (.isRoot expected))
    (parent : ∀ id, motive (.parent id)) (node : Node) : motive node :=
  @Node.rec motive (fun operands => ∀ operand ∈ operands, motive operand)
    join not search named date length hasField isRoot parent (by simp)
    (fun _ _ hfirst hrest => List.forall_mem_cons.mpr ⟨hfirst, hrest⟩) node

end Node

/-! ## The characters of a written tree -/

/-- What stands between two operands of a connective. -/
def Connective.separator (connective : Connective) : List Char :=
  (" " ++ connective.word ++ " ").toList

/-- The written operands that follow the first one, each after a separator. -/
def otherOperands (connective : Connective) (operands : List Expression) : List Char :=
  operands.flatMap fun operand => connective.separator ++ operand.text.toList

theorem toList_text_not (operand : Expression) :
    (Expression.not operand).text.toList =
      '(' :: ("NOT ".toList ++ (operand.text.toList ++ [')'])) := by
  simp [Expression.text]

theorem toList_text_join (connective : Connective) (first : Expression) (others : List Expression) :
    (Expression.join connective (first :: others)).text.toList =
      '(' :: (first.text.toList ++ (otherOperands connective others ++ [')'])) := by
  rw [Expression.text, Expression.texts_eq_map, List.map_cons, String.toList_append,
    String.toList_append, Text.toList_joinWith_cons, List.flatMap_map]
  simp [otherOperands, Connective.separator]

/-! ## Terms in parentheses -/

/-- The text is something in parentheses. -/
def Parenthesized (term : String) : Prop :=
  ∃ inner, term.toList = '(' :: inner ++ [')']

section Parenthesized

variable {term : String}

theorem Parenthesized.trim_eq (h : Parenthesized term) : Text.trim term = term := by
  -- no blank at either end, whatever is inside
  obtain ⟨inner, hinner⟩ := h
  have hopen : Text.isBlank '(' = false := by decide
  have hclose : Text.isBlank ')' = false := by decide
  apply Text.trim_eq_self
  · simp [hinner, hopen]
  · rw [hinner, List.getLast?_concat]
    simp [hclose]

theorem Parenthesized.ne_empty (h : Parenthesized term) : term ≠ "" := by
  obtain ⟨inner, hinner⟩ := h
  rintro rfl
  simp at hinner

/-- Terms in parentheses are neither trimmed nor refused as operands. -/
theorem trimOperands_of_parenthesized (connective : Connective) {terms : List String}
    (h : ∀ term ∈ terms, Parenthesized term) (index : Nat) :
    trimOperands connective index terms = .ok terms := by
  induction terms generalizing index with
  | nil => rfl
  | cons term rest ih =>
      obtain ⟨hterm, hrest⟩ := List.forall_mem_cons.mp h
      rw [trimOperands, hterm.trim_eq, if_neg hterm.ne_empty, ih hrest]
      rfl

/-- A term in parentheses is negated as it is. -/
theorem negate_of_parenthesized (h : Parenthesized term) :
    negate term = .ok ("(NOT " ++ term ++ ")") := by
  rw [negate, h.trim_eq, if_neg h.ne_empty]

theorem parenthesized_leaf (path : String) (test : Test) : Parenthesized (leaf path test) :=
  ⟨(path ++ " " ++ test.text).toList, by simp [leaf]⟩

end Parenthesized

namespace Expression

/-- A written tree is something in parentheses. -/
theorem parenthesized_text (expression : Expression) : Parenthesized expression.text := by
  cases expression with
  | leaf path test => exact parenthesized_leaf path test
  | not operand => exact ⟨("NOT " ++ operand.text).toList, by simp [text]⟩
  | join connective operands =>
      exact ⟨(Text.joinWith (" " ++ connective.word ++ " ") (texts operands)).toList,
        by simp [text]⟩

theorem trim_text (expression : Expression) : Text.trim expression.text = expression.text :=
  expression.parenthesized_text.trim_eq

theorem text_ne_empty (expression : Expression) : expression.text ≠ "" :=
  expression.parenthesized_text.ne_empty

theorem trimOperands_texts (connective : Connective) (operands : List Expression) (index : Nat) :
    trimOperands connective index (texts operands) = .ok (texts operands) := by
  apply trimOperands_of_parenthesized
  rw [texts_eq_map]
  exact List.forall_mem_map.mpr fun operand _ => operand.parenthesized_text

/-- Joining written trees, at least one, writes the joined tree. -/
theorem join_texts (connective : Connective) {operands : List Expression} (hne : operands ≠ []) :
    Query.join connective (texts operands) = .ok (joined connective operands).text := by
  match operands, hne with
  | [operand], _ =>
      simp only [Query.join, trimOperands_texts]
      rfl
  | first :: second :: rest, _ =>
      simp only [Query.join, trimOperands_texts]
      rfl

/-- Joining leaves, one for each member of a list, writes the joined leaves. -/
theorem join_map_leaf {α : Type} (connective : Connective) {members : List α} (path : α → String)
    (test : α → Test) (hne : members ≠ []) :
    Query.join connective (members.map fun member => Query.leaf (path member) (test member)) =
      .ok (joined connective (members.map fun member => leaf (path member) (test member))).text := by
  rw [← join_texts connective (by simpa using hne), texts_eq_map, List.map_map]
  rfl

/-- Negating a written tree writes the negated tree. -/
theorem negate_text (operand : Expression) : negate operand.text = .ok (not operand).text := by
  rw [negate_of_parenthesized operand.parenthesized_text, text]

end Expression

end RegistryClient.Query

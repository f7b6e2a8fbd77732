import RegistryClient.Proofs.Query.Meaningless

/-!
# Connectives with one operand

A connective with one operand says what its operand says, and it is compiled to the same term or
refused for the same cause, wherever in a query it stands (`compile_lone_operand`).

This rests on the form of terms: whatever is joined or negated while a query is compiled is a leaf
or has been compiled itself, so it stands in parentheses (`parenthesized_of_compile`) and is
neither trimmed nor blank.  No query is refused for a blank operand
(`not_refusesBlank_of_compile`).
-/

namespace RegistryClient.Query

variable {node other : Node} {term : String} {fault : QueryFault}

/-! ## Terms are never blank -/

theorem parenthesized_of_compile (h : node.compile = .ok term) : Parenthesized term := by
  obtain ⟨-, rfl⟩ := compile_eq_ok_iff.mp h
  exact node.expression.parenthesized_text

/-- The fault is that of a connective or a negation that is given a blank term. -/
inductive RefusesBlank : QueryFault → Prop where
  | operand (connective : Connective) (index : Nat) : RefusesBlank (.blankOperand connective index)
  | negation : RefusesBlank .blankNegation

theorem Node.Meaningless.not_refusesBlank (h : node.Meaningless fault) : ¬ RefusesBlank fault := by
  intro hblank
  cases h with
  | notIdentifiers hfirst =>
      obtain ⟨_, _, _, _, _, _, rfl⟩ := hfirst
      cases hblank
  | _ => cases hblank

/-- No query is refused for a blank term, because every cause is that of some leaf. -/
theorem not_refusesBlank_of_compile (h : node.compile = .error fault) : ¬ RefusesBlank fault := by
  obtain ⟨_, leaf, _, _, _, hleaf⟩ := compile_eq_error_iff.mp h
  exact hleaf.not_refusesBlank

/-! ## One operand -/

theorem join_singleton_of_parenthesized (connective : Connective) (h : Parenthesized term) :
    join connective [term] = .ok term := by
  have hterms := trimOperands_of_parenthesized connective (List.forall_mem_singleton.mpr h) 0
  simp only [join, hterms]
  rfl

/-- A connective with one operand is compiled as its operand is. -/
theorem compile_join_singleton (connective : Connective) (node : Node) :
    (Node.join connective [node]).compile = node.compile := by
  rw [Node.compile, Node.compileAll]
  cases h : node.compile with
  | error fault => rfl
  | ok term =>
      have hjoin := join_singleton_of_parenthesized connective (parenthesized_of_compile h)
      exact Outcome.bind_eq_ok_iff.mpr ⟨[term], rfl, hjoin⟩

/-! ## Contexts -/

/-- A query with a place for another one in it. -/
inductive Context where
  | here
  | not (inner : Context)
  | join (connective : Connective) (before : List Node) (inner : Context) (after : List Node)

/-- The query with this one in the place. -/
def Context.fill (node : Node) : Context → Node
  | .here => node
  | .not inner => .not (inner.fill node)
  | .join connective before inner after => .join connective (before ++ inner.fill node :: after)

/-- Queries that are compiled alike can stand for each other in any other query. -/
theorem compile_fill_congr (h : node.compile = other.compile) (context : Context) :
    (context.fill node).compile = (context.fill other).compile := by
  induction context with
  | here => exact h
  | not inner ih => rw [Context.fill, Context.fill, Node.compile, Node.compile, ih]
  | join connective before inner after ih =>
      rw [Context.fill, Context.fill, Node.compile, Node.compile, Node.compileAll_eq_mapM,
        Node.compileAll_eq_mapM, List.mapM_append, List.mapM_append, List.mapM_cons,
        List.mapM_cons, ih]

/-- **A connective with one operand can be left out anywhere in a query.**  The query is compiled to
the same term or refused for the same cause.  What is joined or negated, leaves and terms that have
been compiled, is something in parentheses and is joined and negated as it is, so no query is
refused for a blank term. -/
theorem compile_lone_operand :
    (∀ connective node, (Node.join connective [node]).compile = node.compile) ∧
      (∀ (context : Context) connective node,
        (context.fill (.join connective [node])).compile = (context.fill node).compile) ∧
      (∀ (node : Node) term, node.compile = .ok term → Parenthesized term) ∧
      (∀ path test, Parenthesized (leaf path test)) ∧
      (∀ connective index terms, (∀ term ∈ terms, Parenthesized term) →
        trimOperands connective index terms = .ok terms) ∧
      (∀ term, Parenthesized term → negate term = .ok ("(NOT " ++ term ++ ")")) ∧
      ∀ (node : Node) fault, node.compile = .error fault → ¬ RefusesBlank fault := by
  refine ⟨compile_join_singleton, fun context connective node => ?_,
    fun node term => parenthesized_of_compile, parenthesized_leaf,
    fun connective index terms h => trimOperands_of_parenthesized connective h index,
    fun term => negate_of_parenthesized, fun node fault => not_refusesBlank_of_compile⟩
  exact compile_fill_congr (compile_join_singleton connective node) context

/-- Records that have a date and not what is asked for in the place. -/
def datedOther : Context :=
  .join .and [.hasField .date] (.not .here) []

/-- Two connectives with one operand each, around a search that is compiled and around one that is
refused. -/
theorem compile_lone_operand_dated :
    (datedOther.fill (.join .or [.join .and [.search .name .exact "Up"]])).compile =
        .ok ("((/FullMetadata/BaseObjectData/ReleaseDate EXISTS) AND " ++
          "(NOT (/FullMetadata/BaseObjectData/ResourceName IS \"Up\")))") ∧
      (datedOther.fill (.join .or [.join .and [.search .name .exact " "]])).compile =
        .error (.blankSearch "name") ∧
      ¬ RefusesBlank (.blankSearch "name") := by
  have hbare : ∀ text,
      (datedOther.fill (.join .or [.join .and [.search .name .exact text]])).compile =
        (datedOther.fill (.search .name .exact text)).compile := by
    intro text
    rw [compile_lone_operand.2.1, compile_lone_operand.2.1]
  have hvalid : (datedOther.fill (.search .name .exact "Up")).Valid := by
    refine .join (by simp) (List.forall_mem_cons.mpr ⟨.hasField rfl, ?_⟩)
    exact List.forall_mem_singleton.mpr (.not (.search (by decide +kernel)))
  have hblank : (datedOther.fill (.search .name .exact " ")).compile =
      .error (.blankSearch "name") := rfl
  refine ⟨?_, (hbare " ").trans hblank, compile_lone_operand.2.2.2.2.2.2 _ _ hblank⟩
  rw [hbare, compile_eq_ok_iff]
  exact ⟨hvalid, by decide +kernel⟩

end RegistryClient.Query

import RegistryClient.Proofs.FirstFault
import RegistryClient.Proofs.Query.Compile
import RegistryClient.Proofs.Query.IllFormed

/-!
# Queries that are refused

The leaves of a query tree are its predicates and the connectives without operands.
`Node.Meaningless` says of a leaf why it is refused.

`compile_eq_error_iff` is what `compile_eq_ok_iff` leaves open: a tree that is not
valid is refused for the first of its meaningless leaves, from left to right.  The
operands of a connective or a negation have then been compiled, and what has been
compiled can always be joined and negated, so no other fault is possible.

The main statement, `compileJson_firstFault`, puts this together with the faults of
documents: all of a document is read before any of it is compiled.
-/

namespace RegistryClient.Query

namespace Node

/-! ## Leaves -/

mutual

/-- The parts of a query tree without operands, from left to right. -/
def leaves : Node → List Node
  | .join connective [] => [.join connective []]
  | .join _ (first :: rest) => leavesOfAll (first :: rest)
  | .not operand => operand.leaves
  | predicate => [predicate]

/-- The leaves of some query trees, in order. -/
def leavesOfAll : List Node → List Node
  | [] => []
  | operand :: rest => operand.leaves ++ leavesOfAll rest

end

theorem leavesOfAll_eq_flatMap (operands : List Node) :
    leavesOfAll operands = operands.flatMap leaves := by
  induction operands with
  | nil => rfl
  | cons operand rest ih => rw [leavesOfAll, ih, List.flatMap_cons]

theorem compileAll_eq_mapM (operands : List Node) :
    compileAll operands = operands.mapM compile := by
  induction operands with
  | nil => rfl
  | cons operand rest ih => rw [compileAll, ih, List.mapM_cons]

end Node

/-- The text is not an identifier. -/
def NotIdentifier (id : String) (fault : QueryFault) : Prop :=
  Identifier.isValid id = false ∧ fault = .invalidIdentifier id

/-- The leaf has no meaning: a connective that joins nothing, or a predicate that asks
for nothing. -/
inductive Node.Meaningless : Node → QueryFault → Prop where
  | join {connective : Connective} :
      Meaningless (.join connective []) (.nothingToJoin connective)
  | search {element : Element} {mode : TextMode} {text : String} : Text.words text = [] →
      Meaningless (.search element mode text) (.blankSearch element.key)
  | noIdentifiers {mode : IdMode} : Meaningless (.named mode []) .noIdentifiers
  | notIdentifiers {mode : IdMode} {ids : List String} {fault : QueryFault} :
      FirstFault NotIdentifier ids fault → Meaningless (.named mode ids) fault
  | severalIdentifiers {ids : List String} : (∀ id ∈ ids, Identifier.isValid id = true) →
      2 ≤ ids.length → Meaningless (.named .exact ids) (.severalIdentifiers ids)
  | date {bound : Bound} {value : String} : Text.trim value = "" →
      Meaningless (.date bound value) (.blankValue "date")
  | length {bound : Bound} {value : String} : Text.trim value = "" →
      Meaningless (.length bound value) (.blankValue "length")
  | hasField {element : Element} : element.paths.length ≠ 1 →
      Meaningless (.hasField (.element element)) (.severalFields element.key)
  | parent {id : String} : Identifier.isValid id = false →
      Meaningless (.parent id) (.invalidIdentifier id)

section Meaning

variable {fault : QueryFault}

theorem meaningless_join_iff {connective : Connective} :
    (Node.join connective []).Meaningless fault ↔ fault = .nothingToJoin connective := by
  constructor
  · intro h
    cases h
    rfl
  · rintro rfl
    exact .join

theorem meaningless_search_iff {element : Element} {mode : TextMode} {text : String} :
    (Node.search element mode text).Meaningless fault ↔
      Text.words text = [] ∧ fault = .blankSearch element.key := by
  constructor
  · intro h
    cases h with
    | search hwords => exact ⟨hwords, rfl⟩
  · rintro ⟨hwords, rfl⟩
    exact .search hwords

theorem meaningless_date_iff {bound : Bound} {value : String} :
    (Node.date bound value).Meaningless fault ↔
      Text.trim value = "" ∧ fault = .blankValue "date" := by
  constructor
  · intro h
    cases h with
    | date hblank => exact ⟨hblank, rfl⟩
  · rintro ⟨hblank, rfl⟩
    exact .date hblank

theorem meaningless_length_iff {bound : Bound} {value : String} :
    (Node.length bound value).Meaningless fault ↔
      Text.trim value = "" ∧ fault = .blankValue "length" := by
  constructor
  · intro h
    cases h with
    | length hblank => exact ⟨hblank, rfl⟩
  · rintro ⟨hblank, rfl⟩
    exact .length hblank

theorem not_meaningless_isRoot {expected : Bool} : ¬ (Node.isRoot expected).Meaningless fault := by
  intro h
  cases h

theorem meaningless_parent_iff {id : String} :
    (Node.parent id).Meaningless fault ↔ NotIdentifier id fault := by
  constructor
  · intro h
    cases h with
    | parent hid => exact ⟨hid, rfl⟩
  · rintro ⟨hid, rfl⟩
    exact .parent hid

end Meaning

/-! ## Refused predicates -/

theorem compileSearch_eq_error_iff {element : Element} {mode : TextMode} {text : String}
    {fault : QueryFault} :
    compileSearch element mode text = .error fault ↔
      Text.words text = [] ∧ fault = .blankSearch element.key := by
  by_cases hwords : Text.words text = []
  · simp [compileSearch, hwords, eq_comm]
  · rw [compileSearch_eq_ok_iff.mpr ⟨hwords, rfl⟩]
    simp [hwords]

theorem requireIdentifier_eq_error_iff {id : String} {fault : QueryFault} :
    requireIdentifier id = .error fault ↔ NotIdentifier id fault := by
  cases hvalid : Identifier.isValid id with
  | true => simp [requireIdentifier, NotIdentifier, hvalid]
  | false => simp [requireIdentifier, NotIdentifier, hvalid, eq_comm]

theorem requireIdentifiers_eq_error_iff {ids : List String} {fault : QueryFault} :
    requireIdentifiers ids = .error fault ↔ FirstFault NotIdentifier ids fault := by
  induction ids with
  | nil => simp [requireIdentifiers, not_firstFault_nil]
  | cons id rest ih =>
      rw [requireIdentifiers, Outcome.bind_eq_error_iff, firstFault_cons_iff, ← ih,
        requireIdentifier_eq_error_iff]
      simp only [requireIdentifier_eq_ok_iff]
      simp [NotIdentifier]

theorem compileNamed_of_notIdentifiers {mode : IdMode} {ids : List String} {fault : QueryFault}
    (hids : requireIdentifiers ids = .error fault) : compileNamed mode ids = .error fault := by
  cases ids with
  | nil => cases hids
  | cons first others => simp [compileNamed, hids, bind, Except.bind]

theorem compileNamed_of_several {ids : List String}
    (hvalid : ∀ id ∈ ids, Identifier.isValid id = true) (hlength : 2 ≤ ids.length) :
    compileNamed .exact ids = .error (.severalIdentifiers ids) := by
  have hids : requireIdentifiers ids = .ok () := requireIdentifiers_eq_ok_iff.mpr hvalid
  obtain ⟨first, others, rfl⟩ := List.exists_cons_of_length_pos (Nat.lt_of_lt_of_le (by omega) hlength)
  cases others with
  | nil => simp at hlength
  | cons second rest => simp [compileNamed, hids, bind, Except.bind]

theorem compileNamed_eq_error_iff {mode : IdMode} {ids : List String} {fault : QueryFault} :
    compileNamed mode ids = .error fault ↔ (Node.named mode ids).Meaningless fault := by
  constructor
  · intro h
    cases hids : requireIdentifiers ids with
    | error cause =>
        rw [compileNamed_of_notIdentifiers hids] at h
        cases h
        exact .notIdentifiers (requireIdentifiers_eq_error_iff.mp hids)
    | ok done =>
        have hvalid := requireIdentifiers_eq_ok_iff.mp hids
        -- only too few or too many identifiers can be wrong
        by_cases hnone : ids = []
        · subst hnone
          cases h
          exact .noIdentifiers
        by_cases hseveral : mode = .exact ∧ 2 ≤ ids.length
        · obtain ⟨rfl, hlength⟩ := hseveral
          rw [compileNamed_of_several hvalid hlength] at h
          cases h
          exact .severalIdentifiers hvalid hlength
        · have hone : mode = .exact → ids.length = 1 := by
            intro hmode
            have hpos := List.length_pos_iff.mpr hnone
            have hfew : ¬ 2 ≤ ids.length := fun hlength => hseveral ⟨hmode, hlength⟩
            omega
          rw [compileNamed_eq_ok_iff.mpr ⟨⟨hnone, hvalid, hone⟩, rfl⟩] at h
          cases h
  · intro h
    cases h with
    | noIdentifiers => rfl
    | notIdentifiers hfirst =>
        exact compileNamed_of_notIdentifiers (requireIdentifiers_eq_error_iff.mpr hfirst)
    | severalIdentifiers hvalid hlength => exact compileNamed_of_several hvalid hlength

theorem compileBound_eq_error_iff {part path value : String} {bound : Bound}
    {fault : QueryFault} :
    compileBound part path bound value = .error fault ↔
      Text.trim value = "" ∧ fault = .blankValue part := by
  by_cases hvalue : Text.trim value = ""
  · simp [compileBound, hvalue, eq_comm]
  · simp [compileBound, hvalue]

theorem compileHasField_eq_error_iff {field : Field} {fault : QueryFault} :
    compileHasField field = .error fault ↔ (Node.hasField field).Meaningless fault := by
  constructor
  · intro h
    cases field with
    | date => cases h
    | length => cases h
    | element searched =>
        rw [compileHasField] at h
        cases hsingle : searched.singlePath? with
        | some path => simp [hsingle] at h
        | none =>
            simp only [hsingle] at h
            cases h
            refine .hasField fun hlength => ?_
            obtain ⟨path, hpath⟩ := List.length_eq_one_iff.mp hlength
            rw [singlePath?_eq_some_iff.mpr hpath] at hsingle
            cases hsingle
  · intro h
    cases h with
    | @hasField searched hlength =>
        have hsingle : searched.singlePath? = none := by
          refine Option.eq_none_iff_forall_ne_some.mpr fun path hpath => hlength ?_
          rw [singlePath?_eq_some_iff.mp hpath, List.length_singleton]
        rw [compileHasField, hsingle]

theorem compileParent_eq_error_iff {id : String} {fault : QueryFault} :
    compileParent id = .error fault ↔ NotIdentifier id fault := by
  rw [← requireIdentifier_eq_error_iff]
  cases hid : requireIdentifier id with
  | error cause => simp [compileParent, hid, bind, Except.bind]
  | ok done =>
      have hvalid := requireIdentifier_eq_ok_iff.mp hid
      rw [compileParent_eq_ok_iff.mpr ⟨hvalid, rfl⟩]
      simp

/-! ## Refused trees -/

/-- **A tree is refused for the first of its meaningless leaves.** -/
theorem compile_eq_error_iff {node : Node} {fault : QueryFault} :
    node.compile = .error fault ↔ FirstFault Node.Meaningless node.leaves fault := by
  induction node generalizing fault with
  | join connective operands ih =>
      cases operands with
      | nil =>
          have hempty : (Node.join connective []).compile = .error (.nothingToJoin connective) :=
            rfl
          rw [hempty, Node.leaves, firstFault_singleton_iff, meaningless_join_iff,
            Except.error.injEq, eq_comm]
      | cons first rest =>
          -- what has been compiled is joined
          have hjoin : (Node.join connective (first :: rest)).compile = .error fault ↔
              Node.compileAll (first :: rest) = .error fault := by
            rw [Node.compile, Outcome.bind_eq_error_iff, or_iff_left]
            rintro ⟨terms, hterms, h⟩
            obtain ⟨-, rfl⟩ :=
              (compileAll_eq_ok_iff fun operand _ _ => compile_eq_ok_iff).mp hterms
            rw [join_texts_expressions connective (List.cons_ne_nil first rest)] at h
            cases h
          rw [hjoin, Node.compileAll_eq_mapM, Node.leaves, Node.leavesOfAll_eq_flatMap]
          exact mapM_eq_error_iff fun operand hoperand _ => ih operand hoperand
  | not operand ih =>
      rw [Node.compile, Outcome.bind_eq_error_iff, Node.leaves, ← ih, or_iff_left]
      rintro ⟨term, hterm, h⟩
      obtain ⟨-, rfl⟩ := compile_eq_ok_iff.mp hterm
      rw [Expression.negate_text] at h
      cases h
  | search element mode text =>
      rw [Node.compile, compileSearch_eq_error_iff]
      simp only [Node.leaves, firstFault_singleton_iff, meaningless_search_iff]
  | named mode ids =>
      rw [Node.compile, compileNamed_eq_error_iff]
      simp only [Node.leaves, firstFault_singleton_iff]
  | date bound value =>
      rw [Node.compile, compileBound_eq_error_iff]
      simp only [Node.leaves, firstFault_singleton_iff, meaningless_date_iff]
  | length bound value =>
      rw [Node.compile, compileBound_eq_error_iff]
      simp only [Node.leaves, firstFault_singleton_iff, meaningless_length_iff]
  | hasField field =>
      rw [Node.compile, compileHasField_eq_error_iff]
      simp only [Node.leaves, firstFault_singleton_iff]
  | isRoot expected =>
      rw [compile_isRoot]
      simp only [Node.leaves, firstFault_singleton_iff, not_meaningless_isRoot, reduceCtorEq]
  | parent id =>
      rw [Node.compile, compileParent_eq_error_iff]
      simp only [Node.leaves, firstFault_singleton_iff, meaningless_parent_iff]

theorem exists_compile_eq_ok_iff {node : Node} :
    (∃ expression, node.compile = .ok expression) ↔ node.Valid := by
  simp only [compile_eq_ok_iff, exists_and_left, exists_eq, and_true]

theorem compileJson_of_ofJson {document : Json} {node : Node}
    (h : Node.ofJson document = .ok node) : compileJson document = node.compile := by
  rw [compileJson, h]
  rfl

theorem compileJson_of_refused {document : Json} {fault : QueryFault}
    (h : Node.ofJson document = .error fault) : compileJson document = .error fault := by
  rw [compileJson, h]
  rfl

/-- Of two trees with the same leaves up to a meaningless one, both are refused alike. -/
theorem compile_eq_of_same_leaves {node other : Node} {examined : List Node}
    (hnode : examined <+: node.leaves) (hother : examined <+: other.leaves)
    (hmeaningless : ∃ leaf ∈ examined, ∃ fault, leaf.Meaningless fault) :
    node.compile = other.compile := by
  obtain ⟨fault, hfirst⟩ := exists_firstFault_iff.mpr hmeaningless
  have hrefused : ∀ tree : Node, examined <+: tree.leaves → tree.compile = .error fault := by
    rintro tree ⟨after, hleaves⟩
    rw [compile_eq_error_iff, ← hleaves]
    exact firstFault_append_iff.mpr (Or.inl hfirst)
  rw [hrefused node hnode, hrefused other hother]

/-- **What becomes of a query document.**  It is refused when some node of it is
ill-formed, for what is wrong with the first such node in the order of the document.
Otherwise the tree that is read decides: it is compiled when it is valid, and refused
for the first of its meaningless leaves when it is not, whatever the leaves after that
one are.  All of these are faults of the caller's input. -/
theorem compileJson_firstFault :
    (∀ (document : Json) (fault : QueryFault),
      (Node.ofJson document = .error fault ↔
        FirstFault Document.IllFormed (Document.nodes document) fault) ∧
      (Node.ofJson document = .error fault → compileJson document = .error fault)) ∧
    (∀ (document : Json) (node : Node), Node.ofJson document = .ok node →
      ((∃ expression, compileJson document = .ok expression) ↔ node.Valid) ∧
      ∀ fault, compileJson document = .error fault ↔
        FirstFault Node.Meaningless node.leaves fault) ∧
    (∀ node : Node, ((∃ expression, node.compile = .ok expression) ↔ node.Valid) ∧
      ∀ fault, node.compile = .error fault ↔ FirstFault Node.Meaningless node.leaves fault) ∧
    (∀ (node other : Node) (examined : List Node), examined <+: node.leaves →
      examined <+: other.leaves → (∃ leaf ∈ examined, ∃ fault, leaf.Meaningless fault) →
      node.compile = other.compile) ∧
    ∀ fault : QueryFault, fault.toFault.kind = .invalidInput := by
  have hcompile : ∀ node : Node, ((∃ expression, node.compile = .ok expression) ↔ node.Valid) ∧
      ∀ fault, node.compile = .error fault ↔ FirstFault Node.Meaningless node.leaves fault :=
    fun _ => ⟨exists_compile_eq_ok_iff, fun _ => compile_eq_error_iff⟩
  refine ⟨fun _ _ => ⟨Document.ofJson_eq_error_iff, compileJson_of_refused⟩, ?_, hcompile,
    fun _ _ _ => compile_eq_of_same_leaves, fun _ => rfl⟩
  intro document node hread
  rw [compileJson_of_ofJson hread]
  exact hcompile node

/-- A blank search stands before a predicate with an argument of the wrong kind. -/
def misplacedDocument : Json :=
  .object [("and", .array [.object [("title", .object [("words", .string " ")])],
    .object [("not", .object [("isroot", .null)])]])]

/-- A blank date stands before a parent that is no identifier. -/
def blankDateDocument : Json :=
  .object [("or", .array [.object [("title", .object [("words", .string "a")])],
    .object [("not", .object [("date", .string "\t")])], .object [("parent", .string "b")]])]

/-- What stands in a document matters before what its tree means. -/
theorem compileJson_firstFault_ordered :
    compileJson misplacedDocument = .error (.notABoolean .null) ∧
      compileJson blankDateDocument = .error (.blankValue "date") ∧
      (Node.join .or [.search .title .words "a", .date .exactly "\t", .parent "b"]).compile =
        (Node.join .and [.search .title .words "a", .not (.date .exactly "\t")]).compile := by
  have hmisplaced : Node.ofJson misplacedDocument = .error (.notABoolean .null) := rfl
  have hread : Node.ofJson blankDateDocument =
      .ok (.join .or [.search .title .words "a", .not (.date .exactly "\t"), .parent "b"]) := rfl
  have hblank : (Node.date .exactly "\t").Meaningless (.blankValue "date") := .date (by decide)
  have hearlier : ∀ earlier ∈ [Node.search .title .words "a"], ∀ cause,
      ¬ earlier.Meaningless cause := by
    rintro earlier hearlier cause hcause
    rw [List.mem_singleton.mp hearlier] at hcause
    cases hcause with
    | search hwords => exact absurd hwords (by decide)
  refine ⟨(compileJson_firstFault.1 _ _).2 hmisplaced,
    ((compileJson_firstFault.2.1 _ _ hread).2 _).mpr ⟨_, _, _, rfl, hearlier, hblank⟩, ?_⟩
  exact compileJson_firstFault.2.2.2.1 _ _ [.search .title .words "a", .date .exactly "\t"]
    ⟨[.parent "b"], rfl⟩ ⟨[], rfl⟩ ⟨_, by simp, _, hblank⟩

end RegistryClient.Query

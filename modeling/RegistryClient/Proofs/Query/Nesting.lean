import RegistryClient.Proofs.Query.Compile

/-!
# The nesting of compiled expressions

Whether a text is a single term is decided by a scan over its characters, which
counts parentheses and passes over quoted literals: a text `IsTerm` when the scan
is inside parentheses from the first character to the last one and outside of
them only then.

Exact matches are quoted, and a quoted literal never disturbs the scan.  The
values of all other tests stand in the expression as they are.  Such a value
keeps to itself when it is `Contained`: the parentheses and literals that it
opens are its own, and so are those that it closes.

The main statement is `isTerm_compile_iff`: exactly when all unquoted values of a
query are contained, the compiled expression and each of its leaves are single
terms.  `escape_of_loose_value` shows a value that is not: it ends its leaf and
adds an operand of its own.
-/

namespace RegistryClient.Query

/-! ## The scan -/

/-- What a character means to a scan. -/
inductive Zone where
  | unquoted
  | quoted
  /-- Inside a quoted literal, after a reverse solidus. -/
  | escaped
deriving DecidableEq

/-- How deep in parentheses a scan is, and how it takes the next character. -/
@[ext]
structure Scan where
  depth : Int
  zone : Zone
deriving DecidableEq

namespace Scan

def step (scan : Scan) (c : Char) : Scan :=
  match scan.zone with
  | .unquoted =>
    if c = '(' then ⟨scan.depth + 1, .unquoted⟩
    else if c = ')' then ⟨scan.depth - 1, .unquoted⟩
    else if c = '"' then ⟨scan.depth, .quoted⟩
    else scan
  | .quoted =>
    if c = '"' then ⟨scan.depth, .unquoted⟩
    else if c = '\\' then ⟨scan.depth, .escaped⟩
    else scan
  | .escaped => ⟨scan.depth, .quoted⟩

/-- The scan after some characters. -/
def run (scan : Scan) (chars : List Char) : Scan :=
  chars.foldl step scan

theorem run_append (scan : Scan) (first second : List Char) :
    scan.run (first ++ second) = (scan.run first).run second :=
  List.foldl_append

theorem run_cons (scan : Scan) (c : Char) (chars : List Char) :
    scan.run (c :: chars) = (scan.step c).run chars := rfl

theorem step_add_depth (depth more : Int) (zone : Zone) (c : Char) :
    step ⟨depth + more, zone⟩ c =
      ⟨(step ⟨depth, zone⟩ c).depth + more, (step ⟨depth, zone⟩ c).zone⟩ := by
  cases zone with
  | unquoted =>
      by_cases hopen : c = '('
      · simp only [step, if_pos hopen, mk.injEq, and_true]
        omega
      by_cases hclose : c = ')'
      · simp only [step, if_neg hopen, if_pos hclose, mk.injEq, and_true]
        omega
      by_cases hquote : c = '"' <;> simp [step, hopen, hclose, hquote]
  | quoted =>
      by_cases hquote : c = '"'
      · simp [step, hquote]
      by_cases hsolidus : c = '\\' <;> simp [step, hquote, hsolidus]
  | escaped => rfl

/-- Parentheses around the whole text add to the depth, and nothing else. -/
theorem run_add_depth (depth more : Int) (zone : Zone) (chars : List Char) :
    run ⟨depth + more, zone⟩ chars =
      ⟨(run ⟨depth, zone⟩ chars).depth + more, (run ⟨depth, zone⟩ chars).zone⟩ := by
  induction chars generalizing depth zone with
  | nil => rfl
  | cons c chars ih => rw [run_cons, run_cons, step_add_depth, ih]

end Scan

/-- The scan of a text from its start. -/
def scan (chars : List Char) : Scan :=
  Scan.run ⟨0, .unquoted⟩ chars

/-- After a text that leaves no literal open, the scan goes on from its depth. -/
theorem scan_append {first second : List Char} {depth : Int}
    (hfirst : scan first = ⟨depth, .unquoted⟩) :
    scan (first ++ second) = ⟨(scan second).depth + depth, (scan second).zone⟩ := by
  rw [scan, Scan.run_append, ← scan, hfirst, ← Int.zero_add depth, Scan.run_add_depth,
    Int.zero_add]
  rfl

theorem prefix_append_cases {first second before : List Char} (h : before <+: first ++ second) :
    before <+: first ∨ ∃ rest, rest <+: second ∧ before = first ++ rest := by
  rcases List.prefix_or_prefix_of_prefix h (List.prefix_append first second) with hle | hge
  · exact Or.inl hle
  · obtain ⟨rest, rfl⟩ := hge
    exact Or.inr ⟨rest, (List.prefix_append_right_inj first).mp h, rfl⟩

/-! ## Contained texts -/

/-- The text closes no parenthesis and no literal but those that it opens, and
it closes all of these. -/
structure Contained (chars : List Char) : Prop where
  above : ∀ before, before <+: chars → 0 ≤ (scan before).depth
  closed : scan chars = ⟨0, .unquoted⟩

theorem contained_nil : Contained [] where
  above := by
    intro before hbefore
    rw [List.prefix_nil.mp hbefore]
    exact Int.le_refl 0
  closed := rfl

theorem Contained.append {first second : List Char} (hfirst : Contained first)
    (hsecond : Contained second) : Contained (first ++ second) where
  above := by
    intro before hbefore
    rcases prefix_append_cases hbefore with hbefore | ⟨rest, hrest, rfl⟩
    · exact hfirst.above before hbefore
    · rw [scan_append hfirst.closed]
      simpa using hsecond.above rest hrest
  closed := by
    rw [scan_append hfirst.closed, hsecond.closed]
    rfl

/-- What is contained can be taken away from the front. -/
theorem contained_append_iff {first second : List Char} (hfirst : Contained first) :
    Contained (first ++ second) ↔ Contained second := by
  refine ⟨fun h => ⟨fun before hbefore => ?_, ?_⟩, hfirst.append⟩
  · have habove := h.above (first ++ before) ((List.prefix_append_right_inj first).mpr hbefore)
    rw [scan_append hfirst.closed] at habove
    simpa using habove
  · have hclosed := h.closed
    rw [scan_append hfirst.closed] at hclosed
    simpa [Scan.ext_iff] using hclosed

/-- The character is no parenthesis and no quotation mark. -/
def isPlainChar (c : Char) : Bool :=
  c ≠ '(' && c ≠ ')' && c ≠ '"'

theorem contained_singleton {c : Char} (hc : isPlainChar c = true) : Contained [c] := by
  have hstep : scan [c] = ⟨0, .unquoted⟩ := by
    simp only [isPlainChar, Bool.and_eq_true, decide_eq_true_eq] at hc
    simp [scan, Scan.run, Scan.step, hc]
  have hdepth : (scan [c]).depth = 0 := congrArg Scan.depth hstep
  refine ⟨fun before hbefore => ?_, hstep⟩
  rcases List.prefix_cons_iff.mp hbefore with rfl | ⟨rest, rfl, hrest⟩
  · exact Int.le_refl 0
  · rw [List.prefix_nil.mp hrest]
    omega

/-- Texts without parentheses and quotation marks are contained. -/
theorem contained_of_plain {chars : List Char} (h : chars.all isPlainChar = true) :
    Contained chars := by
  induction chars with
  | nil => exact contained_nil
  | cons c chars ih =>
      rw [List.all_cons, Bool.and_eq_true] at h
      exact (contained_singleton h.1).append (ih h.2)

/-! ## Quoted literals -/

theorem step_quoted_of_plain {c : Char} (depth : Int) (hc : ¬ (c = '"' ∨ c = '\\')) :
    Scan.step ⟨depth, .quoted⟩ c = ⟨depth, .quoted⟩ := by
  rw [not_or] at hc
  simp [Scan.step, hc]

/-- Escaped text leaves the scan inside the literal, and the mark after it ends the literal. -/
theorem run_escapeQuoted (depth : Int) (value : List Char) :
    Scan.run ⟨depth, .quoted⟩ (escapeQuoted value ++ ['"']) = ⟨depth, .unquoted⟩ := by
  induction value with
  | nil => simp [escapeQuoted, Scan.run, Scan.step]
  | cons c value ih =>
      by_cases hc : c = '"' ∨ c = '\\'
      · rw [escapeQuoted, if_pos hc, List.cons_append, List.cons_append, Scan.run_cons,
          Scan.run_cons]
        simpa [Scan.step] using ih
      · rw [escapeQuoted, if_neg hc, List.cons_append, Scan.run_cons,
          step_quoted_of_plain depth hc, ih]

/-- Inside a literal the depth does not change. -/
theorem depth_run_quoted {value before : List Char} (depth : Int)
    (hbefore : before <+: escapeQuoted value ++ ['"']) :
    (Scan.run ⟨depth, .quoted⟩ before).depth = depth := by
  induction value generalizing before with
  | nil =>
      rcases List.prefix_cons_iff.mp hbefore with rfl | ⟨rest, rfl, hrest⟩
      · rfl
      · rw [List.prefix_nil.mp hrest]
        rfl
  | cons c value ih =>
      by_cases hc : c = '"' ∨ c = '\\'
      · -- a prefix may end between the reverse solidus and the character that it escapes
        rw [escapeQuoted, if_pos hc, List.cons_append, List.cons_append] at hbefore
        rcases List.prefix_cons_iff.mp hbefore with rfl | ⟨rest, rfl, hrest⟩
        · rfl
        rcases List.prefix_cons_iff.mp hrest with rfl | ⟨more, rfl, hmore⟩
        · rfl
        · simpa [Scan.run_cons, Scan.step] using ih hmore
      · rw [escapeQuoted, if_neg hc, List.cons_append] at hbefore
        rcases List.prefix_cons_iff.mp hbefore with rfl | ⟨rest, rfl, hrest⟩
        · rfl
        · rw [Scan.run_cons, step_quoted_of_plain depth hc]
          exact ih hrest

/-- A quoted value is contained, whatever the value. -/
theorem contained_quoted (value : String) : Contained (quoted value).toList := by
  have hquoted : (quoted value).toList = '"' :: (escapeQuoted value.toList ++ ['"']) := by
    simp [quoted]
  rw [hquoted]
  refine ⟨fun before hbefore => ?_, run_escapeQuoted 0 value.toList⟩
  rcases List.prefix_cons_iff.mp hbefore with rfl | ⟨rest, rfl, hrest⟩
  · exact Int.le_refl 0
  · exact Int.le_of_eq (depth_run_quoted 0 hrest).symm

/-! ## Terms -/

/-- The text is one term: inside parentheses from its first character to its last. -/
structure IsTerm (chars : List Char) : Prop where
  opens : chars.head? = some '('
  inside : ∀ before after, chars = before ++ after → before ≠ [] → after ≠ [] →
    1 ≤ (scan before).depth
  closed : scan chars = ⟨0, .unquoted⟩

theorem IsTerm.contained {chars : List Char} (h : IsTerm chars) : Contained chars where
  above := by
    rintro before ⟨after, rfl⟩
    by_cases hbefore : before = []
    · rw [hbefore]
      exact Int.le_refl 0
    by_cases hafter : after = []
    · have hclosed := congrArg Scan.depth h.closed
      rw [hafter, List.append_nil] at hclosed
      exact Int.le_of_eq hclosed.symm
    · have hinside := h.inside before after rfl hbefore hafter
      omega
  closed := h.closed

/-- **Parentheses make a term of a text exactly when the text is contained.** -/
theorem isTerm_parenthesized_iff {inner : List Char} :
    IsTerm ('(' :: (inner ++ [')'])) ↔ Contained inner := by
  -- behind the opening parenthesis every scan is one deeper
  have hopened : ∀ chars, scan ('(' :: chars) = ⟨(scan chars).depth + 1, (scan chars).zone⟩ :=
    fun chars => @scan_append ['('] chars 1 rfl
  constructor
  · intro h
    refine ⟨fun before hbefore => ?_, ?_⟩
    · obtain ⟨after, rfl⟩ := hbefore
      have hinside := h.inside ('(' :: before) (after ++ [')']) (by simp) (by simp) (by simp)
      rw [hopened] at hinside
      have hdeeper : 1 ≤ (scan before).depth + 1 := hinside
      omega
    · -- the last parenthesis counts only when no literal is open
      have hclosed := h.closed
      rw [hopened, scan, Scan.run_append, ← scan] at hclosed
      cases hscan : scan inner with
      | mk depth zone =>
          cases zone <;> simp_all [Scan.run, Scan.step]
  · intro h
    refine ⟨rfl, ?_, ?_⟩
    · intro before after hsplit hbefore hafter
      obtain ⟨first, rest, rfl⟩ := List.exists_cons_of_ne_nil hbefore
      obtain ⟨hfirst, hinner⟩ := List.cons.inj hsplit
      have hrest : rest <+: inner := by
        obtain ⟨between, last, rfl⟩ := List.eq_nil_or_concat after |>.resolve_left hafter
        have hparts : inner ++ [')'] = rest ++ between ++ [last] := by simpa using hinner
        exact ⟨between, (List.append_inj_left' hparts rfl).symm⟩
      have habove := h.above rest hrest
      rw [← hfirst, hopened]
      exact Int.add_le_add_right habove 1
    · rw [hopened, scan_append h.closed]
      rfl

/-! ## Compiled queries -/

/-- The value of a test that stands in its leaf as it is. -/
def Test.unquoted? : Test → Option String
  | .loose value => some value
  | .exact _ => none
  | .atMost value => some value
  | .atLeast value => some value
  | .present => none

theorem Test.contained_text_iff (test : Test) :
    Contained test.text.toList ↔ ∀ value ∈ test.unquoted?, Contained value.toList := by
  cases test with
  | loose value => simp [text, unquoted?]
  | exact value =>
      have hword : Contained "IS ".toList := contained_of_plain (by decide)
      have htext : (Test.exact value).text.toList = "IS ".toList ++ (quoted value).toList := by
        rw [text, String.toList_append]
      rw [htext]
      exact iff_of_true (hword.append (contained_quoted value)) (by simp [unquoted?])
  | atMost value =>
      have hsign : Contained "<= ".toList := contained_of_plain (by decide)
      rw [text, String.toList_append, contained_append_iff hsign]
      simp [unquoted?]
  | atLeast value =>
      have hsign : Contained ">= ".toList := contained_of_plain (by decide)
      rw [text, String.toList_append, contained_append_iff hsign]
      simp [unquoted?]
  | present =>
      have hword : Contained "EXISTS".toList := contained_of_plain (by decide)
      exact iff_of_true hword (by simp [unquoted?])

theorem IsFieldPath.contained {path : String} (hpath : IsFieldPath path) :
    Contained path.toList := by
  refine contained_of_plain (List.all_eq_true.mpr fun c hc => ?_)
  have hspecial : c ≠ '(' ∧ c ≠ ')' ∧ c ≠ '"' := by
    refine ⟨?_, ?_, ?_⟩ <;> rintro rfl <;> exact hpath.notMem (by decide) hc
  simpa [isPlainChar, and_assoc] using hspecial

/-- A leaf is a term exactly when its unquoted value is contained. -/
theorem isTerm_leaf_iff {path : String} {test : Test} (hpath : IsFieldPath path) :
    IsTerm (leaf path test).toList ↔ ∀ value ∈ test.unquoted?, Contained value.toList := by
  have hspace : Contained [' '] := contained_singleton (by decide)
  have hleaf : (leaf path test).toList =
      '(' :: ((path.toList ++ ([' '] ++ test.text.toList)) ++ [')']) := by
    simp [leaf]
  rw [hleaf, isTerm_parenthesized_iff, contained_append_iff hpath.contained,
    contained_append_iff hspace, Test.contained_text_iff]

theorem contained_separator (connective : Connective) : Contained connective.separator := by
  cases connective <;> exact contained_of_plain (by decide)

theorem contained_otherOperands (connective : Connective) {operands : List Expression}
    (h : ∀ operand ∈ operands, IsTerm operand.text.toList) :
    Contained (otherOperands connective operands) := by
  induction operands with
  | nil => exact contained_nil
  | cons operand others ih =>
      obtain ⟨hoperand, hothers⟩ := List.forall_mem_cons.mp h
      rw [otherOperands, List.flatMap_cons]
      exact ((contained_separator connective).append hoperand.contained).append (ih hothers)

/-- A tree with contained values only is written as one term. -/
theorem isTerm_text {tree : Expression} (hproper : tree.Proper) :
    (∀ leaf ∈ tree.leaves, ∀ value ∈ leaf.2.unquoted?, Contained value.toList) →
      IsTerm tree.text.toList := by
  induction hproper with
  | @leaf path test hpath =>
      intro h
      exact (isTerm_leaf_iff hpath).mpr (h (path, test) (by simp [Expression.leaves]))
  | @not operand _ ih =>
      intro h
      have hword : Contained "NOT ".toList := contained_of_plain (by decide)
      rw [toList_text_not, ← List.append_assoc, isTerm_parenthesized_iff]
      exact hword.append (ih h).contained
  | @join connective operands hlength _ ih =>
      intro h
      have hterms : ∀ operand ∈ operands, IsTerm operand.text.toList := fun operand hoperand =>
        ih operand hoperand fun leaf hleaf => h leaf (Expression.mem_leaves_join hoperand hleaf)
      have hne : operands ≠ [] := List.ne_nil_of_length_pos (by omega)
      obtain ⟨first, others, rfl⟩ := List.exists_cons_of_ne_nil hne
      obtain ⟨hfirst, hothers⟩ := List.forall_mem_cons.mp hterms
      rw [toList_text_join, ← List.append_assoc, isTerm_parenthesized_iff]
      exact hfirst.contained.append (contained_otherOperands connective hothers)

theorem isFieldPath_of_mem_leaves {tree : Expression} (hproper : tree.Proper) :
    ∀ leaf ∈ tree.leaves, IsFieldPath leaf.1 := by
  induction hproper with
  | leaf hpath => simpa [Expression.leaves] using hpath
  | not _ ih => exact ih
  | join _ _ ih =>
      intro leaf hleaf
      rw [Expression.leaves, Expression.leavesOfAll_eq_flatMap] at hleaf
      obtain ⟨operand, hoperand, hleaf⟩ := List.mem_flatMap.mp hleaf
      exact ih operand hoperand leaf hleaf

/-- **A compiled query and each of its leaves are single terms exactly when all of
its unquoted values are contained.** -/
theorem isTerm_compile_iff {node : Node} {expression : String} (h : node.compile = .ok expression) :
    (IsTerm expression.toList ∧
        ∀ part ∈ node.expression.leaves, IsTerm (leaf part.1 part.2).toList) ↔
      ∀ part ∈ node.expression.leaves, ∀ value ∈ part.2.unquoted?, Contained value.toList := by
  obtain ⟨hvalid, rfl⟩ := compile_eq_ok_iff.mp h
  have hpath := isFieldPath_of_mem_leaves hvalid.proper
  constructor
  · rintro ⟨-, hleaves⟩ part hpart
    exact (isTerm_leaf_iff (hpath part hpart)).mp (hleaves part hpart)
  · intro hcontained
    exact ⟨isTerm_text hvalid.proper hcontained, fun part hpart =>
      (isTerm_leaf_iff (hpath part hpart)).mpr (hcontained part hpart)⟩

/-- Parentheses in a text are harmless when they match, or when the text is quoted. -/
def nestingQuery : Node :=
  .join .or [.search .description .contains "a (b) c", .search .name .exact "a) \"b\""]

theorem isTerm_compile_nestingQuery :
    nestingQuery.compile = .ok nestingQuery.expression.text ∧
      IsTerm nestingQuery.expression.text.toList := by
  have hvalid : nestingQuery.Valid := by
    refine .join (by simp) (List.forall_mem_cons.mpr ⟨.search (by decide), ?_⟩)
    exact List.forall_mem_singleton.mpr (.search (by decide))
  have hcompile := compile_eq_ok_iff.mpr ⟨hvalid, rfl⟩
  have hleaves : nestingQuery.expression.leaves =
      [(Branch.base.path "Description", .loose "a (b) c"),
        (Branch.base.path "ResourceName", .exact "a) \"b\"")] := rfl
  have hmatched : Contained "a (b) c".toList := by
    have hbefore : Contained "a ".toList := contained_of_plain (by decide)
    have hinner : Contained "b".toList := contained_of_plain (by decide)
    have hparentheses : IsTerm "(b)".toList := isTerm_parenthesized_iff.mpr hinner
    have hafter : Contained " c".toList := contained_of_plain (by decide)
    exact hbefore.append (hparentheses.contained.append hafter)
  have hcontained : ∀ part ∈ nestingQuery.expression.leaves, ∀ value ∈ part.2.unquoted?,
      Contained value.toList := by
    rw [hleaves]
    simpa [Test.unquoted?] using hmatched
  exact ⟨hcompile, ((isTerm_compile_iff hcompile).mpr hcontained).1⟩

/-- A text with parentheses that are not its own: the first one ends the leaf. -/
def escapingQuery : Node :=
  .search .referentType .contains "x) OR (y"

/-- A compiled query need not be a single term. -/
theorem escape_of_loose_value :
    ∃ expression, escapingQuery.compile = .ok expression ∧ ¬ IsTerm expression.toList := by
  have hvalid : escapingQuery.Valid := .search (by decide)
  have hcompile := compile_eq_ok_iff.mpr ⟨hvalid, rfl⟩
  have hmem : Branch.base.path "ReferentType" ∈ Element.referentType.paths :=
    List.mem_singleton_self _
  have hpath : IsFieldPath (Branch.base.path "ReferentType") := isFieldPath_of_mem_paths hmem
  refine ⟨_, hcompile, fun hterm => ?_⟩
  have hcontained : Contained "x) OR (y".toList := (isTerm_leaf_iff hpath).mp hterm _ rfl
  exact absurd (hcontained.above "x)".toList (by decide)) (by decide)

end RegistryClient.Query

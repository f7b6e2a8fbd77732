import RegistryClient.Proofs.Json
import RegistryClient.Proofs.Record.Apply
import RegistryClient.Record.Normalize

/-!
# The order and the repetition of wrap rules

The main statements are `normalizeWith_normalizeWith`, that normalizing a record
twice is normalizing it once, and `normalizeWith_of_same_rules`, that rules may be
given in any order and any number of times.  Both need that no rule names the key
`value`: a record in which a scalar has been wrapped has that key, and a rule for it
would see the record differently before and after.

Two facts about single rules carry everything.

* `apply_apply_self`: a rule that has been applied finds no bare scalar any more.
* `apply_comm`: rules commute.  Both go down the tree together, and where the path
  of one of them ends, the other one still has a way to go.  What the first one
  wraps there is a scalar, in which the second one finds nothing, and the record
  around it has only the key `value`, in which the second one finds nothing either
  (`applyAlong_wrap`).

So rules that are all among others add nothing to them (`applyAll_applyAll_of_subset`).
-/

namespace RegistryClient.Record

namespace WrapRule

/-! ## Rules on what has been wrapped -/

/-- A rule that does not name the key of wrapped scalars finds nothing in one. -/
theorem applyAlong_wrap (path : List Segment) {field : String} (hfield : field ≠ valueKey)
    {scalar : Json} (hscalar : scalar.isScalar = true) :
    applyAlong path field (wrap scalar) = wrap scalar := by
  have hunder : applyUnder path field valueKey scalar = scalar := by
    cases path with
    | nil => exact if_neg (Ne.symm hfield)
    | cons segment further =>
        rw [applyUnder, applyAlong_scalar further field hscalar, ite_self]
  rw [wrap, applyAlong_object, List.map_singleton, hunder]

theorem applyAlong_wrapScalar (path : List Segment) {field : String} (hfield : field ≠ valueKey)
    (value : Json) :
    applyAlong path field (wrapScalar value) = wrapScalar (applyAlong path field value) := by
  cases hscalar : value.isScalar with
  | true =>
      rw [applyAlong_scalar path field hscalar, wrapScalar_of_isScalar hscalar,
        applyAlong_wrap path hfield hscalar]
  | false =>
      rw [wrapScalar_of_not_isScalar hscalar,
        wrapScalar_of_not_isScalar ((isScalar_applyAlong path field value).trans hscalar)]

/-- It makes no difference whether a field is wrapped before or after a rule is
applied inside it. -/
theorem applyAlong_wrapField (path : List Segment) {field : String} (hfield : field ≠ valueKey)
    (value : Json) :
    applyAlong path field (wrapField value) = wrapField (applyAlong path field value) := by
  cases value with
  | array items =>
      simp only [wrapField_array, applyAlong_array, List.map_map, Function.comp_def,
        applyAlong_wrapScalar path hfield]
  | object fields => rfl
  | _ => exact applyAlong_wrap path hfield rfl

/-! ## One rule twice -/

theorem applyUnder_applyUnder_self {field key : String} {value : Json}
    (ih : ∀ path, applyAlong path field (applyAlong path field value) = applyAlong path field value)
    (path : List Segment) :
    applyUnder path field key (applyUnder path field key value) =
      applyUnder path field key value := by
  cases path with
  | nil =>
      by_cases hkey : key = field
      · simp only [applyUnder, if_pos hkey, wrapField_wrapField]
      · simp only [applyUnder, if_neg hkey]
  | cons segment further =>
      by_cases hleads : segment.leadsThrough key = true
      · simp only [applyUnder, if_pos hleads, ih]
      · simp only [applyUnder, if_neg hleads]

theorem applyAlong_applyAlong_self (path : List Segment) (field : String) (tree : Json) :
    applyAlong path field (applyAlong path field tree) = applyAlong path field tree := by
  induction tree using Json.induct generalizing path with
  | scalar value hscalar => simp only [applyAlong_scalar path field hscalar]
  | array items ih =>
      simp only [applyAlong_array, List.map_map]
      exact congrArg Json.array (List.map_congr_left fun item hitem => ih item hitem path)
  | object fields ih =>
      simp only [applyAlong_object, List.map_map]
      refine congrArg Json.object (List.map_congr_left fun entry hentry => ?_)
      exact congrArg (Prod.mk entry.1) (applyUnder_applyUnder_self (ih entry hentry) path)

/-- A rule that has been applied changes nothing any more. -/
theorem apply_apply_self (rule : WrapRule) (tree : Json) :
    rule.apply (rule.apply tree) = rule.apply tree :=
  applyAlong_applyAlong_self rule.path rule.field tree

/-! ## Two rules -/

section Commuting

variable {first second : String} (hfirst : first ≠ valueKey) (hsecond : second ≠ valueKey)
include hfirst hsecond

theorem applyUnder_comm {key : String} {value : Json}
    (ih : ∀ path other, applyAlong path first (applyAlong other second value) =
      applyAlong other second (applyAlong path first value))
    (path other : List Segment) :
    applyUnder path first key (applyUnder other second key value) =
      applyUnder other second key (applyUnder path first key value) := by
  cases path with
  | nil =>
      by_cases hkey : key = first
      · cases other with
        | nil =>
            -- both end here: the same field is wrapped, or only the first one's
            by_cases hother : key = second
            · simp only [applyUnder, if_pos hkey, if_pos hother]
            · simp only [applyUnder, if_neg hother]
        | cons segment further =>
            by_cases hleads : segment.leadsThrough key = true
            · simp only [applyUnder, if_pos hkey, if_pos hleads, applyAlong_wrapField _ hsecond]
            · simp only [applyUnder, if_neg hleads]
      · simp only [applyUnder, if_neg hkey]
  | cons segment further =>
      by_cases hleads : segment.leadsThrough key = true
      · cases other with
        | nil =>
            by_cases hother : key = second
            · simp only [applyUnder, if_pos hleads, if_pos hother, applyAlong_wrapField _ hfirst]
            · simp only [applyUnder, if_neg hother]
        | cons otherSegment otherFurther =>
            by_cases hothers : otherSegment.leadsThrough key = true
            · simp only [applyUnder, if_pos hleads, if_pos hothers, ih]
            · simp only [applyUnder, if_neg hothers]
      · simp only [applyUnder, if_neg hleads]

theorem applyAlong_comm (path other : List Segment) (tree : Json) :
    applyAlong path first (applyAlong other second tree) =
      applyAlong other second (applyAlong path first tree) := by
  induction tree using Json.induct generalizing path other with
  | scalar value hscalar => simp only [applyAlong_scalar _ _ hscalar]
  | array items ih =>
      simp only [applyAlong_array, List.map_map]
      exact congrArg Json.array (List.map_congr_left fun item hitem => ih item hitem path other)
  | object fields ih =>
      simp only [applyAlong_object, List.map_map]
      -- both rules go into each field, with what is left of their paths
      refine congrArg Json.object (List.map_congr_left fun entry hentry => ?_)
      exact congrArg (Prod.mk entry.1)
        (applyUnder_comm hfirst hsecond (ih entry hentry) path other)

end Commuting

/-- Rules that do not name the key of wrapped scalars commute. -/
theorem apply_comm {first second : WrapRule} (hfirst : first.field ≠ valueKey)
    (hsecond : second.field ≠ valueKey) (tree : Json) :
    first.apply (second.apply tree) = second.apply (first.apply tree) :=
  applyAlong_comm hfirst hsecond first.path second.path tree

end WrapRule

/-! ## Several rules -/

/-- No rule names the key of wrapped scalars. -/
def SpareValues (rules : List WrapRule) : Prop :=
  ∀ rule ∈ rules, rule.field ≠ valueKey

/-- The tree with the rules applied in order. -/
def applyAll (rules : List WrapRule) (tree : Json) : Json :=
  rules.foldl (fun current rule => rule.apply current) tree

theorem applyAll_cons (rule : WrapRule) (rules : List WrapRule) (tree : Json) :
    applyAll (rule :: rules) tree = applyAll rules (rule.apply tree) :=
  rfl

theorem normalizeWith_object (rules : List WrapRule) (fields : Fields) :
    normalizeWith rules (.object fields) = applyAll rules (.object fields) :=
  rfl

theorem exists_applyAll_object (rules : List WrapRule) (fields : Fields) :
    ∃ wrapped, applyAll rules (.object fields) = .object wrapped := by
  induction rules generalizing fields with
  | nil => exact ⟨fields, rfl⟩
  | cons rule rest ih =>
      rw [applyAll_cons, WrapRule.apply, WrapRule.applyAlong_object]
      exact ih _

/-- A rule may be applied after some others instead of before them. -/
theorem applyAll_apply {rule : WrapRule} {rules : List WrapRule} (hrule : rule.field ≠ valueKey)
    (hrules : SpareValues rules) (tree : Json) :
    applyAll rules (rule.apply tree) = rule.apply (applyAll rules tree) := by
  induction rules generalizing tree with
  | nil => rfl
  | cons first rest ih =>
      obtain ⟨hfirst, hrest⟩ := List.forall_mem_cons.mp hrules
      rw [applyAll_cons, applyAll_cons, WrapRule.apply_comm hfirst hrule, ih hrest]

theorem applyAll_comm {rules others : List WrapRule} (hrules : SpareValues rules)
    (hothers : SpareValues others) (tree : Json) :
    applyAll rules (applyAll others tree) = applyAll others (applyAll rules tree) := by
  induction others generalizing tree with
  | nil => rfl
  | cons rule rest ih =>
      obtain ⟨hrule, hrest⟩ := List.forall_mem_cons.mp hothers
      rw [applyAll_cons, applyAll_cons, ih hrest, applyAll_apply hrule hrules]

/-- A rule adds nothing to rules that it is among. -/
theorem applyAll_apply_of_mem {rule : WrapRule} {rules : List WrapRule}
    (hrules : SpareValues rules) (hmem : rule ∈ rules) (tree : Json) :
    applyAll rules (rule.apply tree) = applyAll rules tree := by
  induction rules generalizing tree with
  | nil => cases hmem
  | cons first rest ih =>
      have hrule : rule.field ≠ valueKey := hrules rule hmem
      obtain ⟨hfirst, hrest⟩ := List.forall_mem_cons.mp hrules
      rcases List.mem_cons.mp hmem with rfl | hmem
      · rw [applyAll_cons, applyAll_cons, WrapRule.apply_apply_self]
      · rw [applyAll_cons, applyAll_cons, WrapRule.apply_comm hfirst hrule, ih hrest hmem]

/-- Rules add nothing to rules that they are all among. -/
theorem applyAll_applyAll_of_subset {rules others : List WrapRule} (hrules : SpareValues rules)
    (hsubset : others ⊆ rules) (tree : Json) :
    applyAll rules (applyAll others tree) = applyAll rules tree := by
  induction others generalizing tree with
  | nil => rfl
  | cons rule rest ih =>
      obtain ⟨hmem, hrest⟩ := List.cons_subset.mp hsubset
      rw [applyAll_cons, ih hrest, applyAll_apply_of_mem hrules hmem]

/-- Which rules are applied is all that counts. -/
theorem applyAll_of_same_rules {rules others : List WrapRule} (hrules : SpareValues rules)
    (hsame : ∀ rule, rule ∈ rules ↔ rule ∈ others) (tree : Json) :
    applyAll rules tree = applyAll others tree := by
  have hothers : SpareValues others := fun rule hmem => hrules rule ((hsame rule).mpr hmem)
  -- either list absorbs the other one
  calc applyAll rules tree
      = applyAll rules (applyAll others tree) :=
        (applyAll_applyAll_of_subset hrules (fun rule => (hsame rule).mpr) tree).symm
    _ = applyAll others (applyAll rules tree) := applyAll_comm hrules hothers tree
    _ = applyAll others tree :=
        applyAll_applyAll_of_subset hothers (fun rule => (hsame rule).mp) tree

/-! ## Normalizing -/

theorem spareValues_defaultRules : SpareValues defaultRules := by
  unfold SpareValues
  decide

theorem normalizeWith_twice {rules : List WrapRule} (hrules : SpareValues rules) (tree : Json) :
    normalizeWith rules (normalizeWith rules tree) = normalizeWith rules tree := by
  cases tree with
  | object fields =>
      obtain ⟨wrapped, hwrapped⟩ := exists_applyAll_object rules fields
      rw [normalizeWith_object, hwrapped, normalizeWith_object, ← hwrapped,
        applyAll_applyAll_of_subset hrules (List.Subset.refl rules)]
  | _ => rfl

theorem normalizeWith_same {rules others : List WrapRule} (hrules : SpareValues rules)
    (hsame : ∀ rule, rule ∈ rules ↔ rule ∈ others) (tree : Json) :
    normalizeWith rules tree = normalizeWith others tree := by
  cases tree with
  | object fields =>
      rw [normalizeWith_object, normalizeWith_object, applyAll_of_same_rules hrules hsame]
  | _ => rfl

/-- **Normalizing twice is normalizing once**, with any rules that spare wrapped
scalars; the default rules are such rules. -/
theorem normalizeWith_normalizeWith :
    (∀ (rules : List WrapRule) (tree : Json), (∀ rule ∈ rules, rule.field ≠ valueKey) →
      normalizeWith rules (normalizeWith rules tree) = normalizeWith rules tree) ∧
      (∀ rule ∈ defaultRules, rule.field ≠ valueKey) ∧
      ∀ tree : Json, normalize (normalize tree) = normalize tree :=
  ⟨fun _ tree hrules => normalizeWith_twice hrules tree, spareValues_defaultRules,
    normalizeWith_twice spareValues_defaultRules⟩

/-- Two rules for the same field, and one whose way leads through that field. -/
def overlappingRules : List WrapRule :=
  [⟨[.any], "x"⟩, ⟨[.key "a"], "x"⟩, ⟨[.key "a", .key "x"], "y"⟩]

/-- A record with the field bare, in an array, and in an array inside that array. -/
def overlappedRecord : Json :=
  .object [("a", .array [.object [("x", .null)],
    .object [("x", .array [.bool true, .array [.null], .object [("y", .null)]])]])]

theorem normalizeWith_normalizeWith_overlapping :
    (∀ rule ∈ overlappingRules, rule.field ≠ valueKey) ∧
      normalizeWith overlappingRules overlappedRecord =
        .object [("a", .array [.object [("x", WrapRule.wrap .null)],
          .object [("x", .array [WrapRule.wrap (.bool true), .array [.null],
            .object [("y", WrapRule.wrap .null)]])]])] ∧
      normalizeWith overlappingRules (normalizeWith overlappingRules overlappedRecord) =
        normalizeWith overlappingRules overlappedRecord := by
  have hrules : ∀ rule ∈ overlappingRules, rule.field ≠ valueKey := by decide
  exact ⟨hrules, rfl, normalizeWith_normalizeWith.1 _ _ hrules⟩

/-- **Rules may be given in any order and any number of times**, and each two of
them commute on any tree, when none names the key of wrapped scalars. -/
theorem normalizeWith_of_same_rules :
    (∀ (rules others : List WrapRule) (tree : Json), (∀ rule ∈ rules, rule.field ≠ valueKey) →
      (∀ rule, rule ∈ rules ↔ rule ∈ others) →
      normalizeWith rules tree = normalizeWith others tree) ∧
      ∀ (first second : WrapRule) (tree : Json), first.field ≠ valueKey →
        second.field ≠ valueKey →
        first.apply (second.apply tree) = second.apply (first.apply tree) :=
  ⟨fun _ _ tree hrules hsame => normalizeWith_same hrules hsame tree,
    fun _ _ tree hfirst hsecond => WrapRule.apply_comm hfirst hsecond tree⟩

/-- The rules in another order, two of them repeated. -/
def reorderedRules : List WrapRule :=
  [⟨[.key "a", .key "x"], "y"⟩, ⟨[.key "a"], "x"⟩, ⟨[.any], "x"⟩, ⟨[.key "a"], "x"⟩,
    ⟨[.key "a", .key "x"], "y"⟩]

theorem normalizeWith_of_same_rules_reordered :
    normalizeWith overlappingRules overlappedRecord =
      normalizeWith reorderedRules overlappedRecord ∧
      ∀ first ∈ overlappingRules, ∀ second ∈ overlappingRules,
        first.apply (second.apply overlappedRecord) =
          second.apply (first.apply overlappedRecord) := by
  have hrules : ∀ rule ∈ overlappingRules, rule.field ≠ valueKey := by decide
  have hkept : ∀ rule ∈ overlappingRules, rule ∈ reorderedRules := by decide
  have hnoOther : ∀ rule ∈ reorderedRules, rule ∈ overlappingRules := by decide
  have hsame : ∀ rule, rule ∈ overlappingRules ↔ rule ∈ reorderedRules :=
    fun rule => ⟨hkept rule, hnoOther rule⟩
  refine ⟨normalizeWith_of_same_rules.1 _ _ _ hrules hsame, ?_⟩
  intro first hfirst second hsecond
  exact normalizeWith_of_same_rules.2 first second _ (hrules first hfirst) (hrules second hsecond)

/-- The order of a rule for wrapped scalars does count. -/
example :
    normalizeWith [⟨[], "x"⟩, ⟨[.key "x"], valueKey⟩] (.object [("x", .null)]) =
        .object [("x", WrapRule.wrap (WrapRule.wrap .null))] ∧
      normalizeWith [⟨[.key "x"], valueKey⟩, ⟨[], "x"⟩] (.object [("x", .null)]) =
        .object [("x", WrapRule.wrap .null)] :=
  ⟨rfl, rfl⟩

end RegistryClient.Record

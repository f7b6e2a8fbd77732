import Mathlib.Data.List.Forall2
import RegistryClient.Proofs.Json.Position
import RegistryClient.Proofs.Record.RuleOrder

/-!
# The scalars that wrap rules name

A rule names positions in a tree (`WrapRule.Names`): its path leads through the keys on the
way to its field, wherever arrays stand on that way, and the position is that of the
field's value or of an item of the array that is its value.

The main statement, `normalizeWith_eq_changeScalars`, is that normalizing a record with some
rules, which rewrites it once for each rule, is the same as wrapping all at once every
scalar at a position that some rule names.  It needs that no rule names the key `value`,
under which wrapped scalars stand.

The step from rule to rule is `applyAlong_changeScalars`: on a tree of which some scalars
have been wrapped already, a rule wraps those at the positions it names and leaves all
others as they are.  It goes down the tree; at the end of the path the field is wrapped, and
then only the position of its value and those of its items count (`wrapField_changeScalars`).
-/

namespace RegistryClient.Record

open Json (Position keysOn changeScalars changeScalars_scalar changeScalars_array
  changeScalars_object)

namespace WrapRule

/-! ## Named positions -/

/-- The way leads no further than to an item: nowhere, or to one item of an array. -/
def AtMostOneItem (way : Position) : Prop :=
  way = [] ∨ ∃ index, way = [.item index]

theorem atMostOneItem_nil : AtMostOneItem [] :=
  Or.inl rfl

instance decidableAtMostOneItem : (way : Position) → Decidable (AtMostOneItem way)
  | [] => isTrue (Or.inl rfl)
  | [.item index] => isTrue (Or.inr ⟨index, rfl⟩)
  | .key _ :: _ => isFalse (by simp [AtMostOneItem])
  | .item _ :: _ :: _ => isFalse (by simp [AtMostOneItem])

/-- The rule names a position: its path leads through the keys before the field, and what
is at the position is the value of the field or an item of it. -/
def Names (rule : WrapRule) (position : Position) : Prop :=
  ∃ way ending, position = way ++ .key rule.field :: ending ∧
    List.Forall₂ (fun segment key => segment.leadsThrough key = true) rule.path (keysOn way) ∧
    AtMostOneItem ending

section Steps

variable {path : List Segment} {field : String} {position : Position}

theorem not_names_nil (rule : WrapRule) : ¬ rule.Names [] := by
  rintro ⟨way, ending, hposition, -⟩
  simp at hposition

/-- Indices before the last key do not count. -/
theorem names_item_iff {index : Nat} :
    Names ⟨path, field⟩ (.item index :: position) ↔ Names ⟨path, field⟩ position := by
  constructor
  · rintro ⟨way, ending, hposition, hpath, hending⟩
    cases way with
    | nil => simp at hposition
    | cons step way =>
        obtain ⟨rfl, hrest⟩ := List.cons.inj hposition
        exact ⟨way, ending, hrest, hpath, hending⟩
  · rintro ⟨way, ending, rfl, hpath, hending⟩
    exact ⟨.item index :: way, ending, rfl, hpath, hending⟩

theorem names_last_iff {key : String} :
    Names ⟨[], field⟩ (.key key :: position) ↔ key = field ∧ AtMostOneItem position := by
  constructor
  · rintro ⟨way, ending, hposition, hpath, hending⟩
    cases way with
    | nil =>
        obtain ⟨hkey, rfl⟩ := List.cons.inj hposition
        exact ⟨Json.Step.key.inj hkey, hending⟩
    | cons step way =>
        obtain ⟨rfl, -⟩ := List.cons.inj hposition
        cases hpath
  · rintro ⟨rfl, hposition⟩
    exact ⟨[], position, rfl, .nil, hposition⟩

theorem names_key_iff {segment : Segment} {key : String} :
    Names ⟨segment :: path, field⟩ (.key key :: position) ↔
      segment.leadsThrough key = true ∧ Names ⟨path, field⟩ position := by
  constructor
  · rintro ⟨way, ending, hposition, hpath, hending⟩
    cases way with
    | nil => cases hpath
    | cons step way =>
        obtain ⟨rfl, hrest⟩ := List.cons.inj hposition
        cases hpath with
        | cons hleads hpath => exact ⟨hleads, way, ending, hrest, hpath, hending⟩
  · rintro ⟨hleads, way, ending, rfl, hpath, hending⟩
    exact ⟨.key key :: way, ending, rfl, .cons hleads hpath, hending⟩

end Steps

/-- No item of an array that is itself an item is named. -/
theorem not_names_nested_item (rule : WrapRule) (way : Position) (outer inner : Nat) :
    ¬ rule.Names (way ++ [.item outer, .item inner]) := by
  rintro ⟨before, ending, hposition, -, rfl | ⟨index, rfl⟩⟩
  · have hlast := congrArg List.getLast? hposition
    simp at hlast
  · have hreverse := congrArg List.reverse hposition
    simp at hreverse

/-- Whether a rule names a position is decided step by step. -/
instance decidableNames : (path : List Segment) → (field : String) → (position : Position) →
    Decidable (Names ⟨path, field⟩ position)
  | _, _, [] => isFalse (not_names_nil _)
  | path, field, .item _ :: rest =>
    have := decidableNames path field rest
    decidable_of_iff (Names ⟨path, field⟩ rest) names_item_iff.symm
  | [], field, .key key :: rest =>
    decidable_of_iff (key = field ∧ AtMostOneItem rest) names_last_iff.symm
  | segment :: path, field, .key key :: rest =>
    have := decidableNames path field rest
    decidable_of_iff (segment.leadsThrough key = true ∧ Names ⟨path, field⟩ rest)
      names_key_iff.symm

instance (rule : WrapRule) (position : Position) : Decidable (rule.Names position) :=
  decidableNames rule.path rule.field position

/-! ## One rule -/

/-- At every position a scalar is left as it is or wrapped. -/
def WrapsOrLeaves (change : Position → Json → Json) : Prop :=
  ∀ position scalar, change position scalar = scalar ∨ change position scalar = wrap scalar

theorem WrapsOrLeaves.below {change : Position → Json → Json} (h : WrapsOrLeaves change)
    (step : Json.Step) : WrapsOrLeaves fun position => change (step :: position) :=
  fun position => h (step :: position)

section Changed

variable {change : Position → Json → Json} (hchange : WrapsOrLeaves change)
variable {scalar : Json} (hscalar : scalar.isScalar = true)
include hchange hscalar

/-- A scalar that may have been wrapped already is wrapped once. -/
theorem wrapScalar_changed : wrapScalar (change [] scalar) = wrap scalar := by
  rcases hchange [] scalar with hleft | hwrapped
  · rw [hleft, wrapScalar_of_isScalar hscalar]
  · rw [hwrapped]
    rfl

theorem wrapField_changed : wrapField (change [] scalar) = wrap scalar := by
  rcases hchange [] scalar with hleft | hwrapped
  · rw [hleft]
    cases scalar <;> first | rfl | cases hscalar
  · rw [hwrapped]
    rfl

theorem applyAlong_changed (path : List Segment) {field : String} (hfield : field ≠ valueKey) :
    applyAlong path field (change [] scalar) = change [] scalar := by
  rcases hchange [] scalar with hleft | hwrapped
  · rw [hleft, applyAlong_scalar path field hscalar]
  · rw [hwrapped, applyAlong_wrap path hfield hscalar]

end Changed

theorem wrapScalar_changeScalars {change : Position → Json → Json} (hchange : WrapsOrLeaves change)
    (value : Json) :
    wrapScalar (changeScalars change value) =
      changeScalars (fun position scalar =>
        if position = [] then wrap scalar else change position scalar) value := by
  cases hscalar : value.isScalar with
  | true =>
      rw [changeScalars_scalar _ hscalar, changeScalars_scalar _ hscalar, if_pos rfl,
        wrapScalar_changed hchange hscalar]
  | false =>
      -- inside an array or an object no position is empty
      cases value with
      | array items =>
          simp only [changeScalars_array, reduceCtorEq, if_false]
          rfl
      | object fields =>
          simp only [changeScalars_object, reduceCtorEq, if_false]
          rfl
      | _ => cases hscalar

theorem wrapField_changeScalars {change : Position → Json → Json} (hchange : WrapsOrLeaves change)
    (value : Json) :
    wrapField (changeScalars change value) =
      changeScalars (fun position scalar =>
        if AtMostOneItem position then wrap scalar else change position scalar) value := by
  cases hscalar : value.isScalar with
  | true =>
      rw [changeScalars_scalar _ hscalar, changeScalars_scalar _ hscalar, if_pos atMostOneItem_nil,
        wrapField_changed hchange hscalar]
  | false =>
      cases value with
      | array items =>
          rw [changeScalars_array, changeScalars_array, wrapField_array]
          refine congrArg Json.array (Json.map_mapIdx_eq fun index hindex => ?_)
          rw [wrapScalar_changeScalars (hchange.below _)]
          simp [AtMostOneItem]
      | object fields =>
          simp only [changeScalars_object, AtMostOneItem, reduceCtorEq, List.cons.injEq, false_and,
            exists_false, or_self, if_false]
          rfl
      | _ => cases hscalar

theorem applyUnder_changeScalars {field key : String} {value : Json}
    (ih : ∀ path change, WrapsOrLeaves change →
      applyAlong path field (changeScalars change value) =
        changeScalars (fun position scalar =>
          if Names ⟨path, field⟩ position then wrap scalar else change position scalar) value)
    (path : List Segment) {change : Position → Json → Json} (hchange : WrapsOrLeaves change) :
    applyUnder path field key (changeScalars change value) =
      changeScalars (fun position scalar =>
        if Names ⟨path, field⟩ (.key key :: position) then wrap scalar
        else change position scalar) value := by
  cases path with
  | nil =>
      simp only [names_last_iff]
      by_cases hkey : key = field
      · rw [applyUnder, if_pos hkey, wrapField_changeScalars hchange]
        simp only [hkey, true_and]
      · rw [applyUnder, if_neg hkey]
        simp only [hkey, false_and, if_false]
  | cons segment further =>
      simp only [names_key_iff]
      by_cases hleads : segment.leadsThrough key = true
      · rw [applyUnder, if_pos hleads, ih further change hchange]
        simp only [hleads, true_and]
      · rw [applyUnder, if_neg hleads]
        simp only [hleads, Bool.false_eq_true, false_and, if_false]

/-- **A rule wraps the scalars at the positions it names**, those that have been wrapped
before only once, and leaves all others as they are. -/
theorem applyAlong_changeScalars {field : String} (hfield : field ≠ valueKey)
    (path : List Segment) {change : Position → Json → Json} (hchange : WrapsOrLeaves change)
    (tree : Json) :
    applyAlong path field (changeScalars change tree) =
      changeScalars (fun position scalar =>
        if Names ⟨path, field⟩ position then wrap scalar else change position scalar) tree := by
  induction tree using Json.induct generalizing path change with
  | scalar value hscalar =>
      rw [changeScalars_scalar _ hscalar, changeScalars_scalar _ hscalar,
        if_neg (not_names_nil _), applyAlong_changed hchange hscalar path hfield]
  | array items ih =>
      rw [changeScalars_array, changeScalars_array, applyAlong_array]
      refine congrArg Json.array (Json.map_mapIdx_eq fun index hindex => ?_)
      simp only [names_item_iff, ih items[index] (List.getElem_mem hindex) path (hchange.below _)]
  | object fields ih =>
      rw [changeScalars_object, changeScalars_object, applyAlong_object, List.map_map]
      refine congrArg Json.object (List.map_congr_left fun entry hentry => ?_)
      refine congrArg (Prod.mk entry.1) ?_
      exact applyUnder_changeScalars (fun path _ hbelow => ih entry hentry path hbelow) path
        (hchange.below _)

end WrapRule

/-! ## Several rules -/

/-- The scalar at a position, wrapped if one of the rules names the position. -/
def wrapNamed (rules : List WrapRule) (position : Position) (scalar : Json) : Json :=
  if ∃ rule ∈ rules, rule.Names position then WrapRule.wrap scalar else scalar

theorem wrapsOrLeaves_wrapNamed (rules : List WrapRule) :
    WrapRule.WrapsOrLeaves (wrapNamed rules) := by
  intro position scalar
  by_cases hnamed : ∃ rule ∈ rules, rule.Names position
  · exact Or.inr (if_pos hnamed)
  · exact Or.inl (if_neg hnamed)

theorem wrapNamed_cons (rule : WrapRule) (rules : List WrapRule) (position : Position)
    (scalar : Json) :
    wrapNamed (rule :: rules) position scalar =
      if rule.Names position then WrapRule.wrap scalar else wrapNamed rules position scalar := by
  by_cases hnamed : rule.Names position
  · simp [wrapNamed, hnamed]
  · simp [wrapNamed, hnamed]

theorem applyAll_eq_changeScalars {rules : List WrapRule} (hrules : SpareValues rules)
    (tree : Json) : applyAll rules tree = changeScalars (wrapNamed rules) tree := by
  induction rules with
  | nil =>
      have hnone : wrapNamed [] = fun _ scalar => scalar := by
        funext position scalar
        simp [wrapNamed]
      rw [hnone, Json.changeScalars_eq_self]
      rfl
  | cons rule rest ih =>
      obtain ⟨hrule, hrest⟩ := List.forall_mem_cons.mp hrules
      -- the first rule may as well be applied last
      rw [applyAll_cons, applyAll_apply hrule hrest, ih hrest, WrapRule.apply,
        WrapRule.applyAlong_changeScalars hrule rule.path (wrapsOrLeaves_wrapNamed rest)]
      simp only [← wrapNamed_cons]

/-- **Normalizing wraps exactly the scalars that the rules name**, and changes nothing
else: it is the record with every scalar at a position that some rule names wrapped.  No
item of an array inside an array is among them. -/
theorem normalizeWith_eq_changeScalars (rules : List WrapRule) (fields : Fields)
    (hrules : ∀ rule ∈ rules, rule.field ≠ "value") :
    normalizeWith rules (.object fields) =
        changeScalars (fun position scalar =>
          if ∃ rule ∈ rules, rule.Names position then .object [("value", scalar)] else scalar)
          (.object fields) ∧
      ∀ rule ∈ rules, ∀ way outer inner, ¬ rule.Names (way ++ [.item outer, .item inner]) := by
  refine ⟨?_, fun rule _ => rule.not_names_nested_item⟩
  rw [normalizeWith_object, applyAll_eq_changeScalars hrules]
  rfl

/-- An item of an array is wrapped, an item of an array inside it is not. -/
theorem normalizeWith_eq_changeScalars_overlapping :
    (∀ rule ∈ overlappingRules, rule.field ≠ "value") ∧
      normalizeWith overlappingRules overlappedRecord =
        changeScalars (fun position scalar =>
          if ∃ rule ∈ overlappingRules, rule.Names position then .object [("value", scalar)]
          else scalar)
          overlappedRecord ∧
      (∃ rule ∈ overlappingRules, rule.Names [.key "a", .item 1, .key "x", .item 0]) ∧
      ∀ rule ∈ overlappingRules, ¬ rule.Names [.key "a", .item 1, .key "x", .item 1, .item 0] := by
  have hrules : ∀ rule ∈ overlappingRules, rule.field ≠ "value" := by decide
  obtain ⟨hwrapped, hnested⟩ := normalizeWith_eq_changeScalars overlappingRules _ hrules
  refine ⟨hrules, hwrapped, by decide, fun rule hrule => ?_⟩
  exact hnested rule hrule [.key "a", .item 1, .key "x"] 1 0

end RegistryClient.Record

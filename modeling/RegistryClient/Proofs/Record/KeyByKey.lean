import RegistryClient.Proofs.Json.Fields
import RegistryClient.Proofs.Record.RuleOrder

/-!
# Normalizing key by key

Rules are applied one after the other to a whole record, each to what the ones before it have
made of it.  But a rule goes from an array to its items and from an object to its fields, and
never from one item or field to another.  So several rules in a row act on every item and on every
field by itself (`applyAll_array`, `applyAll_object`), and what normalizing makes of a field
depends on its key and its value alone (`get?_normalizeWith`).

Hence it makes no difference whether fields are put over others, or taken away, before or after
normalizing (`normalizeWith_override`, `normalizeWith_erase`).
-/

namespace RegistryClient.Record

open Fields (mapValues)

/-! ## Several rules inside a value -/

/-- What becomes of a value under a key when the rules are applied to the record around it. -/
def applyAllUnder (rules : List WrapRule) (key : String) (value : Json) : Json :=
  rules.foldl (fun current rule => WrapRule.applyUnder rule.path rule.field key current) value

theorem applyAllUnder_cons (rule : WrapRule) (rules : List WrapRule) (key : String) (value : Json) :
    applyAllUnder (rule :: rules) key value =
      applyAllUnder rules key (WrapRule.applyUnder rule.path rule.field key value) :=
  rfl

theorem applyAll_scalar (rules : List WrapRule) {value : Json} (hscalar : value.isScalar = true) :
    applyAll rules value = value := by
  induction rules with
  | nil => rfl
  | cons rule rest ih =>
      rw [applyAll_cons, WrapRule.apply, WrapRule.applyAlong_scalar _ _ hscalar, ih]

theorem applyAll_array (rules : List WrapRule) (items : List Json) :
    applyAll rules (.array items) = .array (items.map (applyAll rules)) := by
  induction rules generalizing items with
  | nil => exact congrArg Json.array (List.map_id items).symm
  | cons rule rest ih =>
      rw [applyAll_cons, WrapRule.apply, WrapRule.applyAlong_array, ih, List.map_map]
      rfl

theorem applyAll_object (rules : List WrapRule) (fields : Fields) :
    applyAll rules (.object fields) = .object (mapValues (applyAllUnder rules) fields) := by
  induction rules generalizing fields with
  | nil => exact congrArg Json.object (List.map_id fields).symm
  | cons rule rest ih =>
      rw [applyAll_cons, WrapRule.apply, WrapRule.applyAlong_object, ih, mapValues, List.map_map]
      rfl

/-! ## Normalizing -/

theorem normalizeWith_eq_mapValues (rules : List WrapRule) (fields : Fields) :
    normalizeWith rules (.object fields) = .object (mapValues (applyAllUnder rules) fields) := by
  rw [normalizeWith_object, applyAll_object]

theorem exists_normalizeWith_eq_object (rules : List WrapRule) (fields : Fields) :
    ∃ normal : Fields, normalizeWith rules (.object fields) = .object normal :=
  ⟨_, normalizeWith_eq_mapValues rules fields⟩

section Normalized

variable {rules : List WrapRule} {fields overriding normal others : Fields} {key : String}

/-- A field is normalized as it is in a record that has no other field. -/
theorem get?_normalizeWith : (normalizeWith rules (.object fields)).get? key =
    (fields.get? key).bind fun value =>
      (normalizeWith rules (.object [(key, value)])).get? key := by
  simp only [normalizeWith_eq_mapValues, Json.get?, Fields.get?_mapValues, Fields.get?_cons_self,
    Option.map_some]
  rw [Option.map_eq_bind]
  rfl

variable (hnormal : normalizeWith rules (.object fields) = .object normal)
include hnormal

theorem eq_mapValues_of_normalizeWith : normal = mapValues (applyAllUnder rules) fields := by
  rw [normalizeWith_eq_mapValues] at hnormal
  exact (Json.object.inj hnormal).symm

/-- Normalizing drops no key and adds none. -/
theorem keys_of_normalizeWith : normal.map Prod.fst = fields.map Prod.fst := by
  rw [eq_mapValues_of_normalizeWith hnormal, Fields.keys_mapValues]

theorem normalizeWith_erase :
    normalizeWith rules (.object (fields.erase key)) = .object (normal.erase key) := by
  rw [normalizeWith_eq_mapValues, Fields.mapValues_erase, ← eq_mapValues_of_normalizeWith hnormal]

theorem normalizeWith_override
    (hothers : normalizeWith rules (.object overriding) = .object others) :
    normalizeWith rules (.object (fields.override overriding)) =
      .object (normal.override others) := by
  rw [normalizeWith_eq_mapValues, Fields.mapValues_override,
    ← eq_mapValues_of_normalizeWith hnormal, ← eq_mapValues_of_normalizeWith hothers]

end Normalized

end RegistryClient.Record

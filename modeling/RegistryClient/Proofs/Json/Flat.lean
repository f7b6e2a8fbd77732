import RegistryClient.Json.Basic

/-!
# Values without nested arrays

A value is flat when no array in it has an array among its items, so that whoever passes
through an array item by item finds a scalar or an object.
-/

namespace RegistryClient.Json

/-- A value that is an array. -/
def isArray : Json → Bool
  | .array _ => true
  | _ => false

/-- No item of an array in the value is an array. -/
inductive Flat : Json → Prop where
  | scalar {value : Json} : value.isScalar = true → Flat value
  | array {items : List Json} : (∀ item ∈ items, item.isArray = false) →
      (∀ item ∈ items, Flat item) → Flat (.array items)
  | object {fields : Fields} : (∀ field ∈ fields, Flat field.2) → Flat (.object fields)

theorem flat_array_iff {items : List Json} :
    Flat (.array items) ↔ (∀ item ∈ items, item.isArray = false) ∧ ∀ item ∈ items, Flat item := by
  constructor
  · intro h
    cases h with
    | scalar hscalar => cases hscalar
    | array hitems hflat => exact ⟨hitems, hflat⟩
  · rintro ⟨hitems, hflat⟩
    exact .array hitems hflat

theorem flat_object_iff {fields : Fields} :
    Flat (.object fields) ↔ ∀ field ∈ fields, Flat field.2 := by
  constructor
  · intro h
    cases h with
    | scalar hscalar => cases hscalar
    | object hflat => exact hflat
  · exact .object

end RegistryClient.Json

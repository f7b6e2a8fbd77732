import RegistryClient.Json.Basic

/-!
# Induction over JSON values

A JSON value is a scalar, an array of values or an object of values.  What holds of
every scalar, of an array when it holds of the items, and of an object when it
holds of the fields' values, holds of every value.
-/

namespace RegistryClient.Json

/-- Induction over JSON values: of items and of fields each one has the property. -/
@[elab_as_elim]
theorem induct {motive : Json → Prop}
    (scalar : ∀ value, value.isScalar = true → motive value)
    (array : ∀ items, (∀ item ∈ items, motive item) → motive (.array items))
    (object : ∀ fields, (∀ field ∈ fields, motive field.2) → motive (.object fields))
    (value : Json) : motive value :=
  @Json.rec motive (fun items => ∀ item ∈ items, motive item)
    (fun fields => ∀ field ∈ fields, motive field.2) (fun field => motive field.2)
    (scalar .null rfl) (fun _ => scalar _ rfl) (fun _ => scalar _ rfl) (fun _ => scalar _ rfl)
    array object (by simp) (fun _ _ hfirst hrest => List.forall_mem_cons.mpr ⟨hfirst, hrest⟩)
    (by simp) (fun _ _ hfirst hrest => List.forall_mem_cons.mpr ⟨hfirst, hrest⟩)
    (fun _ _ hvalue => hvalue) value

end RegistryClient.Json

import RegistryClient.Record.WrapRule

/-!
# Applying a wrap rule

A rule is applied item by item to an array and field by field to an object
(`applyAlong_array`, `applyAlong_object`); what becomes of a field's value depends on
its key and on the rest of the path (`applyUnder`).  Scalars stay as they are on the
way, and are wrapped at its end.
-/

namespace RegistryClient.Record.WrapRule

/-! ## Values under a key -/

/-- A value under a key of a record, with the rest of the path applied to it. -/
def applyUnder (path : List Segment) (field key : String) (value : Json) : Json :=
  match path with
  | [] => if key = field then wrapField value else value
  | segment :: further => if segment.leadsThrough key then applyAlong further field value else value

theorem applyToItems_eq_map (path : List Segment) (field : String) (items : List Json) :
    applyToItems path field items = items.map (applyAlong path field) := by
  induction items with
  | nil => rfl
  | cons item rest ih => rw [applyToItems, ih, List.map_cons]

theorem applyToFields_eq_map (path : List Segment) (field : String) (fields : Fields) :
    applyToFields path field fields =
      fields.map fun entry => (entry.1, applyUnder path field entry.1 entry.2) := by
  induction fields with
  | nil => rfl
  | cons entry rest ih =>
      obtain ⟨key, value⟩ := entry
      rw [List.map_cons, ← ih]
      cases path with
      | nil => rw [applyToFields, applyUnder]
      | cons segment further => rw [applyToFields, applyUnder]

theorem applyAlong_scalar (path : List Segment) (field : String) {value : Json}
    (hscalar : value.isScalar = true) : applyAlong path field value = value := by
  cases value <;> first | rfl | cases hscalar

theorem applyAlong_array (path : List Segment) (field : String) (items : List Json) :
    applyAlong path field (.array items) = .array (items.map (applyAlong path field)) := by
  rw [applyAlong, applyToItems_eq_map]

theorem applyAlong_object (path : List Segment) (field : String) (fields : Fields) :
    applyAlong path field (.object fields) =
      .object (fields.map fun entry => (entry.1, applyUnder path field entry.1 entry.2)) := by
  rw [applyAlong, applyToFields_eq_map]

theorem isScalar_applyAlong (path : List Segment) (field : String) (value : Json) :
    (applyAlong path field value).isScalar = value.isScalar := by
  cases value <;> rfl

/-! ## Wrapping -/

theorem wrapScalar_of_isScalar {value : Json} (hscalar : value.isScalar = true) :
    wrapScalar value = wrap value :=
  if_pos hscalar

theorem wrapScalar_of_not_isScalar {value : Json} (hscalar : value.isScalar = false) :
    wrapScalar value = value := by
  rw [wrapScalar, hscalar]
  rfl

theorem isScalar_wrapScalar (value : Json) : (wrapScalar value).isScalar = false := by
  cases hscalar : value.isScalar with
  | true =>
      rw [wrapScalar_of_isScalar hscalar]
      rfl
  | false => rwa [wrapScalar_of_not_isScalar hscalar]

theorem wrapScalar_wrapScalar (value : Json) : wrapScalar (wrapScalar value) = wrapScalar value :=
  wrapScalar_of_not_isScalar (isScalar_wrapScalar value)

theorem wrapField_array (items : List Json) :
    wrapField (.array items) = .array (items.map wrapScalar) :=
  rfl

/-- No bare scalar is left where scalars have been wrapped. -/
theorem wrapField_wrapField (value : Json) : wrapField (wrapField value) = wrapField value := by
  cases value with
  | array items =>
      simp only [wrapField_array, List.map_map, Function.comp_def, wrapScalar_wrapScalar]
  | _ => rfl

end RegistryClient.Record.WrapRule

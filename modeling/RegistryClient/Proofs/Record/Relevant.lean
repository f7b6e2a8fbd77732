import RegistryClient.Proofs.Record.Wildcard

/-!
# The rules that matter to a record

Normalizing applies many rules, and few of them find anything in a given record.  A rule whose
field is not among the keys of a record changes nothing in it (`applyAlong_of_not_mem`), however
far its path may lead.  The only key that other rules add is `value`
(`allKeys_applyAlong_subset`), so that no rule becomes relevant through the ones before it, unless
its field has that name.  What a record is normalized to comes therefore of its relevant rules
alone (`normalizeWith_relevant`).
-/

namespace RegistryClient.Record

namespace WrapRule

variable {keys : List String} {field : String} {tree : Json}

/-! ## Rules that find nothing -/

/-- A rule finds nothing where its field is not. -/
theorem applyAlong_of_not_mem (path : List Segment) (hkeys : tree.allKeys ⊆ keys)
    (hfield : field ∉ keys) : applyAlong path field tree = tree := by
  induction tree using Json.induct generalizing path with
  | scalar value hscalar => exact applyAlong_scalar path field hscalar
  | array items ih =>
      have hitems := Json.allKeys_array_subset_iff.mp hkeys
      have hsame : items.map (applyAlong path field) = items.map id :=
        List.map_congr_left fun item hitem => ih item hitem path (hitems item hitem)
      rw [applyAlong_array, hsame, List.map_id]
  | object fields ih =>
      have hfields := Json.allKeys_object_subset_iff.mp hkeys
      have hunder : ∀ entry ∈ fields, applyUnder path field entry.1 entry.2 = entry.2 := by
        intro entry hentry
        obtain ⟨hkey, hvalue⟩ := hfields entry hentry
        cases path with
        | nil => exact if_neg (ne_of_mem_of_not_mem hkey hfield)
        | cons segment further => rw [applyUnder, ih entry hentry further hvalue, ite_self]
      have hsame : fields.map (fun entry => (entry.1, applyUnder path field entry.1 entry.2)) =
          fields.map id :=
        List.map_congr_left fun entry hentry => Prod.ext rfl (hunder entry hentry)
      rw [applyAlong_object, hsame, List.map_id]

/-! ## Keys of rewritten trees -/

theorem allKeys_wrapScalar_subset (hkeys : tree.allKeys ⊆ keys) (hvalue : valueKey ∈ keys) :
    (wrapScalar tree).allKeys ⊆ keys := by
  unfold wrapScalar
  split
  · exact Json.allKeys_object_subset_iff.mpr (List.forall_mem_singleton.mpr ⟨hvalue, hkeys⟩)
  · exact hkeys

theorem allKeys_wrapField_subset (hkeys : tree.allKeys ⊆ keys) (hvalue : valueKey ∈ keys) :
    (wrapField tree).allKeys ⊆ keys := by
  cases tree with
  | array items =>
      have hitems := Json.allKeys_array_subset_iff.mp hkeys
      rw [wrapField_array, Json.allKeys_array_subset_iff, List.forall_mem_map]
      exact fun item hitem => allKeys_wrapScalar_subset (hitems item hitem) hvalue
  | _ => exact allKeys_wrapScalar_subset hkeys hvalue

/-- Applying a rule adds the key of wrapped scalars at most. -/
theorem allKeys_applyAlong_subset (path : List Segment) (hkeys : tree.allKeys ⊆ keys)
    (hvalue : valueKey ∈ keys) : (applyAlong path field tree).allKeys ⊆ keys := by
  induction tree using Json.induct generalizing path with
  | scalar value hscalar => rwa [applyAlong_scalar path field hscalar]
  | array items ih =>
      have hitems := Json.allKeys_array_subset_iff.mp hkeys
      rw [applyAlong_array, Json.allKeys_array_subset_iff, List.forall_mem_map]
      exact fun item hitem => ih item hitem path (hitems item hitem)
  | object fields ih =>
      have hfields := Json.allKeys_object_subset_iff.mp hkeys
      rw [applyAlong_object, Json.allKeys_object_subset_iff, List.forall_mem_map]
      intro entry hentry
      obtain ⟨hkey, hinside⟩ := hfields entry hentry
      refine ⟨hkey, ?_⟩
      cases path with
      | nil =>
          rw [applyUnder]
          split
          · exact allKeys_wrapField_subset hinside hvalue
          · exact hinside
      | cons segment further =>
          rw [applyUnder]
          split
          · exact ih entry hentry further hinside
          · exact hinside

end WrapRule

/-! ## Relevant rules -/

/-- The rules whose field is one of the keys. -/
def rulesFor (rules : List WrapRule) (keys : List String) : List WrapRule :=
  rules.filter fun rule => rule.field ∈ keys

theorem applyAll_rulesFor (rules : List WrapRule) {keys : List String} {tree : Json}
    (hkeys : tree.allKeys ⊆ keys) (hvalue : valueKey ∈ keys) :
    applyAll rules tree = applyAll (rulesFor rules keys) tree := by
  induction rules generalizing tree with
  | nil => rfl
  | cons rule rest ih =>
      rw [applyAll_cons]
      by_cases hfield : rule.field ∈ keys
      · have hkept : rulesFor (rule :: rest) keys = rule :: rulesFor rest keys :=
          List.filter_cons_of_pos (decide_eq_true hfield)
        rw [hkept, applyAll_cons]
        exact ih (WrapRule.allKeys_applyAlong_subset rule.path hkeys hvalue)
      · have hleft : rulesFor (rule :: rest) keys = rulesFor rest keys :=
          List.filter_cons_of_neg (mt of_decide_eq_true hfield)
        rw [hleft, WrapRule.apply, WrapRule.applyAlong_of_not_mem rule.path hkeys hfield]
        exact ih hkeys

/-- The rules that can find something in a record: their field is a key in it, or the key that
wrapped scalars have. -/
def relevant (rules : List WrapRule) (tree : Json) : List WrapRule :=
  rulesFor rules (valueKey :: tree.allKeys)

/-- **Only relevant rules count** for what a record is normalized to. -/
theorem normalizeWith_relevant (rules : List WrapRule) (tree : Json) :
    normalizeWith rules tree = normalizeWith (relevant rules tree) tree := by
  cases tree with
  | object fields =>
      rw [normalizeWith_object, normalizeWith_object]
      exact applyAll_rulesFor rules (List.subset_cons_self ..) (List.mem_cons_self ..)
  | _ => rfl

theorem normalize_of_relevant {rules : List WrapRule} {tree : Json}
    (h : relevant defaultRules tree = rules) : normalize tree = normalizeWith rules tree := by
  rw [normalize, normalizeWith_relevant, h]

end RegistryClient.Record

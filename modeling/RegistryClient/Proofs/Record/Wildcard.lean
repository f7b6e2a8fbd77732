import RegistryClient.Proofs.Record.KeyByKey

/-!
# Wildcards

A rule with a wildcard stands for the rules that have one key each in place of it: applied one
after the other, in any order, they make of a tree what the rule with the wildcard makes of it, as
long as every key of the tree is among theirs (`apply_wildcard`).

The instances see trees that other instances have rewritten, in which there are keys `value` that
the wildcard never saw.  They never meet such a key.  All instances go equally far down, and at the
wildcard each of them goes its own way: of the fields of an object there only the one with its own
key is entered.  So what happens to a field of an object at the wildcard is that one instance of
them all, the one with its key, is applied to its value (`applyAllUnder_instances_nil`), and above
the wildcard all instances go the same way (`applyAllUnder_instances_cons`).
-/

namespace RegistryClient

namespace Json

/-! ## The keys in a tree -/

mutual

/-- The keys of all objects in a value, at any depth. -/
def allKeys : Json → List String
  | .array items => allKeysOfItems items
  | .object fields => allKeysOfFields fields
  | _ => []

/-- The keys of all objects in the items. -/
def allKeysOfItems : List Json → List String
  | [] => []
  | item :: rest => allKeys item ++ allKeysOfItems rest

/-- The keys of the fields, and of all objects in their values. -/
def allKeysOfFields : List (String × Json) → List String
  | [] => []
  | (key, value) :: rest => key :: (allKeys value ++ allKeysOfFields rest)

end

theorem allKeys_array_subset_iff {items : List Json} {keys : List String} :
    (Json.array items).allKeys ⊆ keys ↔ ∀ item ∈ items, item.allKeys ⊆ keys := by
  change allKeysOfItems items ⊆ keys ↔ _
  induction items with
  | nil => simp [allKeysOfItems]
  | cons item rest ih =>
      rw [allKeysOfItems, List.append_subset, ih, List.forall_mem_cons]

theorem allKeys_object_subset_iff {fields : Fields} {keys : List String} :
    (Json.object fields).allKeys ⊆ keys ↔
      ∀ entry ∈ fields, entry.1 ∈ keys ∧ entry.2.allKeys ⊆ keys := by
  change allKeysOfFields fields ⊆ keys ↔ _
  induction fields with
  | nil => simp [allKeysOfFields]
  | cons entry rest ih =>
      obtain ⟨key, value⟩ := entry
      rw [allKeysOfFields, List.cons_subset, List.append_subset, ih, List.forall_mem_cons,
        and_assoc]

end Json

namespace Record

/-! ## Instances of a wildcard -/

/-- The rules with one of the keys each in place of a wildcard. -/
def instances (before after : List Segment) (field : String) (keys : List String) :
    List WrapRule :=
  keys.map fun key => ⟨before ++ .key key :: after, field⟩

section Instances

variable (before after : List Segment) (field : String)

/-- Of rules that begin with a key each, only those that begin with its own go into a field.  To go
into it a second time changes nothing. -/
theorem applyAllUnder_instances_nil (keys : List String) (key : String) (value : Json) :
    applyAllUnder (instances [] after field keys) key value =
      if key ∈ keys then WrapRule.applyAlong after field value else value := by
  induction keys generalizing value with
  | nil => rfl
  | cons first rest ih =>
      have hcons : instances [] after field (first :: rest) =
          ⟨.key first :: after, field⟩ :: instances [] after field rest := rfl
      rw [hcons, applyAllUnder_cons, ih, WrapRule.applyUnder]
      by_cases hfirst : first = key
      · have hleads : (Segment.key first).leadsThrough key = true := beq_iff_eq.mpr hfirst
        have hmem : key ∈ first :: rest := List.mem_cons.mpr (Or.inl hfirst.symm)
        rw [if_pos hleads, if_pos hmem, WrapRule.applyAlong_applyAlong_self, ite_self]
      · have hleads : ¬ (Segment.key first).leadsThrough key = true := mt beq_iff_eq.mp hfirst
        have hmem : key ∈ first :: rest ↔ key ∈ rest := by
          rw [List.mem_cons, or_iff_right (Ne.symm hfirst)]
        rw [if_neg hleads]
        simp only [hmem]

/-- Before the wildcard all instances go into the same fields. -/
theorem applyAllUnder_instances_cons (segment : Segment) (keys : List String) (key : String)
    (value : Json) :
    applyAllUnder (instances (segment :: before) after field keys) key value =
      if segment.leadsThrough key then applyAll (instances before after field keys) value
      else value := by
  induction keys generalizing value with
  | nil => exact (ite_self value).symm
  | cons first rest ih =>
      have hcons : instances (segment :: before) after field (first :: rest) =
          ⟨segment :: (before ++ .key first :: after), field⟩ ::
            instances (segment :: before) after field rest := rfl
      rw [hcons, applyAllUnder_cons, ih, WrapRule.applyUnder]
      by_cases hleads : segment.leadsThrough key = true
      · rw [if_pos hleads, if_pos hleads, if_pos hleads]
        rfl
      · rw [if_neg hleads, if_neg hleads, if_neg hleads]

variable {before after field} {keys : List String}

theorem applyAllUnder_instances {key : String} {value : Json} (hkey : key ∈ keys)
    (ih : ∀ before, applyAll (instances before after field keys) value =
      WrapRule.applyAlong (before ++ .any :: after) field value) :
    applyAllUnder (instances before after field keys) key value =
      WrapRule.applyUnder (before ++ .any :: after) field key value := by
  cases before with
  | nil =>
      rw [applyAllUnder_instances_nil, if_pos hkey]
      rfl
  | cons segment further =>
      rw [applyAllUnder_instances_cons, ih, List.cons_append, WrapRule.applyUnder]

theorem applyAll_instances {tree : Json} (hkeys : tree.allKeys ⊆ keys) :
    applyAll (instances before after field keys) tree =
      WrapRule.applyAlong (before ++ .any :: after) field tree := by
  induction tree using Json.induct generalizing before with
  | scalar value hscalar =>
      rw [applyAll_scalar _ hscalar, WrapRule.applyAlong_scalar _ _ hscalar]
  | array items ih =>
      have hitems := Json.allKeys_array_subset_iff.mp hkeys
      rw [applyAll_array, WrapRule.applyAlong_array]
      refine congrArg Json.array (List.map_congr_left fun item hitem => ?_)
      exact ih item hitem (hitems item hitem)
  | object fields ih =>
      have hfields := Json.allKeys_object_subset_iff.mp hkeys
      rw [applyAll_object, WrapRule.applyAlong_object, Fields.mapValues]
      refine congrArg Json.object (List.map_congr_left fun entry hentry => ?_)
      obtain ⟨hkey, hvalue⟩ := hfields entry hentry
      exact congrArg (Prod.mk entry.1)
        (applyAllUnder_instances hkey fun before => ih entry hentry hvalue)

end Instances

/-- **A rule with a wildcard does what its instances do**, applied one after the other: one for
each of some keys, in the order of the keys, whatever that is.  No key of the tree may be missing
among them. -/
theorem apply_wildcard (before after : List Segment) (field : String) (tree : Json)
    (keys : List String) (hkeys : tree.allKeys ⊆ keys) :
    WrapRule.apply ⟨before ++ .any :: after, field⟩ tree =
      (keys.map fun key => WrapRule.mk (before ++ .key key :: after) field).foldl
        (fun current rule => rule.apply current) tree :=
  (applyAll_instances hkeys).symm

/-- A tree in which the wildcard meets the key of wrapped scalars, and wraps under that key. -/
def valuesInArray : Json :=
  .object [("a", .array [.object
    [("p", .object [("x", .object [("value", .null)])]),
      ("value", .object [("x", .array [.object [("value", .array [.bool true])]])])]])]

theorem apply_wildcard_values :
    valuesInArray.allKeys ⊆ ["x", "value", "p", "a"] ∧
      WrapRule.apply ⟨[.any] ++ .any :: [.key "x"], "value"⟩ valuesInArray =
        (["x", "value", "p", "a"].map fun key =>
          WrapRule.mk ([.any] ++ .key key :: [.key "x"]) "value").foldl
            (fun current rule => rule.apply current) valuesInArray ∧
      WrapRule.apply ⟨[.any] ++ .any :: [.key "x"], "value"⟩ valuesInArray =
        .object [("a", .array [.object
          [("p", .object [("x", .object [("value", WrapRule.wrap .null)])]),
            ("value", .object
              [("x", .array [.object [("value", .array [WrapRule.wrap (.bool true)])]])])]])] := by
  have hkeys : valuesInArray.allKeys ⊆ ["x", "value", "p", "a"] := by decide
  exact ⟨hkeys, apply_wildcard [.any] [.key "x"] "value" valuesInArray _ hkeys, rfl⟩

end Record

end RegistryClient

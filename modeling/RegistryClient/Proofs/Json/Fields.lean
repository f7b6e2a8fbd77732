import Mathlib.Data.List.Dedup
import Mathlib.Data.List.Induction
import Mathlib.Data.String.Basic
import RegistryClient.Json.Basic

/-!
# Fields of objects

What is under a key of an object after a value has been put there, after the fields of another
object have been put over it, after a key has been taken away, or after the values have been
changed.  Fields that are put together in this way stay in the order of their keys, so that every
key stands once; in an ordered value this is so for every object (`Json.ordered_object_iff`).
-/

namespace RegistryClient

namespace Fields

/-- The keys increase, so each of them stands once. -/
def Sorted (fields : Fields) : Prop :=
  (fields.map Prod.fst).Pairwise (· < ·)

variable {key name : String} {value : Json} {fields overriding : Fields}
  {entry : String × Json}

/-! ## Looking up -/

theorem get?_cons_self : get? key ((key, value) :: fields) = some value :=
  if_pos rfl

theorem get?_cons_of_ne (hne : name ≠ key) :
    get? key ((name, value) :: fields) = get? key fields :=
  if_neg hne

theorem mem_of_get? (h : fields.get? key = some value) : (key, value) ∈ fields := by
  induction fields with
  | nil => cases h
  | cons first rest ih =>
      obtain ⟨name, present⟩ := first
      by_cases hname : name = key
      · subst hname
        rw [get?_cons_self] at h
        rw [Option.some.inj h]
        exact List.mem_cons_self ..
      · rw [get?_cons_of_ne hname] at h
        exact List.mem_cons_of_mem _ (ih h)

theorem get?_eq_none_iff : fields.get? key = none ↔ key ∉ fields.map Prod.fst := by
  induction fields with
  | nil => simp [get?]
  | cons first rest ih =>
      obtain ⟨name, present⟩ := first
      by_cases hname : name = key
      · simp [get?, hname]
      · simp [get?, hname, ih, Ne.symm hname]

/-! ## Putting a value under a key -/

theorem get?_insert_self : (fields.insert key value).get? key = some value := by
  induction fields with
  | nil => exact get?_cons_self
  | cons first rest ih =>
      obtain ⟨name, present⟩ := first
      by_cases hname : key = name
      · rw [insert, if_pos hname, get?_cons_self]
      · by_cases hlt : key < name
        · rw [insert, if_neg hname, if_pos hlt, get?_cons_self]
        · rw [insert, if_neg hname, if_neg hlt, get?_cons_of_ne (Ne.symm hname), ih]

theorem get?_insert_of_ne (hne : key ≠ name) :
    (fields.insert name value).get? key = fields.get? key := by
  induction fields with
  | nil => exact get?_cons_of_ne hne.symm
  | cons first rest ih =>
      obtain ⟨other, present⟩ := first
      by_cases hname : name = other
      · rw [insert, if_pos hname, get?_cons_of_ne hne.symm, get?_cons_of_ne (hname ▸ hne.symm)]
      · by_cases hlt : name < other
        · rw [insert, if_neg hname, if_pos hlt, get?_cons_of_ne hne.symm]
        · rw [insert, if_neg hname, if_neg hlt]
          by_cases hother : other = key
          · rw [hother, get?_cons_self, get?_cons_self]
          · rw [get?_cons_of_ne hother, get?_cons_of_ne hother, ih]

theorem mem_insert (h : entry ∈ fields.insert key value) :
    entry = (key, value) ∨ entry ∈ fields := by
  induction fields with
  | nil => exact Or.inl (List.mem_singleton.mp h)
  | cons first rest ih =>
      obtain ⟨name, present⟩ := first
      rw [insert] at h
      split at h
      · exact (List.mem_cons.mp h).imp id (List.mem_cons_of_mem _)
      · split at h
        · exact List.mem_cons.mp h
        · rcases List.mem_cons.mp h with hfirst | hrest
          · exact Or.inr (List.mem_cons.mpr (Or.inl hfirst))
          · exact (ih hrest).imp id (List.mem_cons_of_mem _)

theorem sorted_nil : Sorted [] :=
  .nil

theorem sorted_cons_iff :
    Sorted ((key, value) :: fields) ↔ (∀ entry ∈ fields, key < entry.1) ∧ Sorted fields := by
  rw [Sorted, List.map_cons, List.pairwise_cons, List.forall_mem_map]
  rfl

theorem sorted_singleton : Sorted [(key, value)] :=
  sorted_cons_iff.mpr ⟨by simp, sorted_nil⟩

theorem sorted_insert (h : Sorted fields) : Sorted (fields.insert key value) := by
  induction fields with
  | nil => exact sorted_singleton
  | cons first rest ih =>
      obtain ⟨name, present⟩ := first
      obtain ⟨hfirst, hrest⟩ := sorted_cons_iff.mp h
      by_cases hname : key = name
      · rw [insert, if_pos hname]
        exact sorted_cons_iff.mpr ⟨hname ▸ hfirst, hrest⟩
      · by_cases hlt : key < name
        · rw [insert, if_neg hname, if_pos hlt]
          refine sorted_cons_iff.mpr ⟨List.forall_mem_cons.mpr ⟨hlt, fun entry hentry => ?_⟩, h⟩
          exact hlt.trans (hfirst entry hentry)
        · have hgt : name < key := lt_of_le_of_ne (not_lt.mp hlt) (Ne.symm hname)
          rw [insert, if_neg hname, if_neg hlt]
          refine sorted_cons_iff.mpr ⟨fun entry hentry => ?_, ih hrest⟩
          rcases mem_insert hentry with rfl | hentry
          · exact hgt
          · exact hfirst entry hentry

theorem get?_eq_some_iff (h : Sorted fields) :
    fields.get? key = some value ↔ (key, value) ∈ fields := by
  refine ⟨mem_of_get?, fun hmem => ?_⟩
  induction fields with
  | nil => cases hmem
  | cons first rest ih =>
      obtain ⟨name, present⟩ := first
      obtain ⟨hfirst, hrest⟩ := sorted_cons_iff.mp h
      rcases List.mem_cons.mp hmem with heq | hmem
      · obtain ⟨rfl, rfl⟩ := Prod.mk.inj heq
        exact get?_cons_self
      · have hne : name ≠ key := ne_of_lt (hfirst _ hmem)
        rw [get?_cons_of_ne hne, ih hrest hmem]

theorem Sorted.nodup (h : Sorted fields) : fields.Nodup := by
  refine (List.pairwise_map.mp h).imp ?_
  rintro first second hlt rfl
  exact lt_irrefl _ hlt

/-- Fields in order are determined by what stands under each key. -/
theorem Sorted.ext {others : Fields} (hfields : Sorted fields) (hothers : Sorted others)
    (h : ∀ key, fields.get? key = others.get? key) : fields = others := by
  have hmem : ∀ entry, entry ∈ fields ↔ entry ∈ others := by
    rintro ⟨key, value⟩
    rw [← get?_eq_some_iff hfields, ← get?_eq_some_iff hothers, h]
  have hperm : fields.Perm others :=
    (List.perm_ext_iff_of_nodup hfields.nodup hothers.nodup).mpr hmem
  refine hperm.eq_of_pairwise ?_ (List.pairwise_map.mp hfields) (List.pairwise_map.mp hothers)
  exact fun _ _ _ _ hlt hgt => absurd hgt (lt_asymm hlt)

/-! ## Putting fields over others -/

theorem override_cons : fields.override ((key, value) :: overriding) =
    (fields.insert key value).override overriding :=
  rfl

/-- What is under a key comes from the overriding fields if they have that key. -/
theorem get?_override (h : Sorted overriding) :
    (fields.override overriding).get? key = (overriding.get? key).or (fields.get? key) := by
  induction overriding generalizing fields with
  | nil => rfl
  | cons first rest ih =>
      obtain ⟨name, value⟩ := first
      obtain ⟨hfirst, hrest⟩ := sorted_cons_iff.mp h
      rw [override_cons, ih hrest]
      by_cases hname : name = key
      · subst hname
        have hnone : get? name rest = none := by
          rw [get?_eq_none_iff, List.mem_map]
          rintro ⟨entry, hentry, rfl⟩
          exact lt_irrefl _ (hfirst entry hentry)
        rw [hnone, get?_insert_self, get?_cons_self]
        rfl
      · rw [get?_insert_of_ne (Ne.symm hname), get?_cons_of_ne hname]

theorem mem_override (h : entry ∈ fields.override overriding) :
    entry ∈ overriding ∨ entry ∈ fields := by
  induction overriding generalizing fields with
  | nil => exact Or.inr h
  | cons first rest ih =>
      rcases ih h with hrest | hinsert
      · exact Or.inl (List.mem_cons_of_mem _ hrest)
      · rcases mem_insert hinsert with rfl | hfields
        · exact Or.inl (List.mem_cons_self ..)
        · exact Or.inr hfields

theorem sorted_override (h : Sorted fields) : Sorted (fields.override overriding) := by
  induction overriding generalizing fields with
  | nil => exact h
  | cons first rest ih => exact ih (sorted_insert h)

theorem get?_ofList {pairs : List (String × Json)} (h : Sorted pairs) :
    (ofList pairs).get? key = get? key pairs := by
  rw [ofList, get?_override h]
  exact Option.or_none

theorem mem_ofList {pairs : List (String × Json)} (h : entry ∈ ofList pairs) : entry ∈ pairs :=
  (mem_override h).resolve_right List.not_mem_nil

theorem sorted_ofList (pairs : List (String × Json)) : Sorted (ofList pairs) :=
  sorted_override sorted_nil

/-! ## Pairs that share a key -/

theorem ofList_append_singleton (pairs : List (String × Json)) (entry : String × Json) :
    ofList (pairs ++ [entry]) = (ofList pairs).insert entry.1 entry.2 :=
  List.foldl_append

/-- Of several pairs with one key the last counts. -/
theorem get?_ofList_reverse (pairs : List (String × Json)) :
    (ofList pairs).get? key = get? key pairs.reverse := by
  induction pairs using List.reverseRecOn with
  | nil => rfl
  | append_singleton pairs entry ih =>
      obtain ⟨name, value⟩ := entry
      rw [ofList_append_singleton, List.reverse_append, List.reverse_singleton,
        List.singleton_append]
      by_cases hname : name = key
      · subst hname
        rw [get?_insert_self, get?_cons_self]
      · rw [get?_insert_of_ne (Ne.symm hname), get?_cons_of_ne hname, ih]

theorem mem_keys_ofList_iff {pairs : List (String × Json)} :
    key ∈ (ofList pairs).map Prod.fst ↔ key ∈ pairs.map Prod.fst := by
  rw [← not_iff_not, ← get?_eq_none_iff, get?_ofList_reverse, get?_eq_none_iff, List.map_reverse,
    List.mem_reverse]

theorem Sorted.nodup_keys (h : Sorted fields) : (fields.map Prod.fst).Nodup :=
  h.imp ne_of_lt

/-- There are as many fields as there are different keys. -/
theorem length_ofList (pairs : List (String × Json)) :
    (ofList pairs).length = (pairs.map Prod.fst).dedup.length := by
  have hnodup := (sorted_ofList pairs).nodup_keys
  have hperm : ((ofList pairs).map Prod.fst).Perm (pairs.map Prod.fst).dedup := by
    apply (List.perm_ext_iff_of_nodup hnodup (List.nodup_dedup _)).mpr
    intro key
    rw [mem_keys_ofList_iff, List.mem_dedup]
  calc (ofList pairs).length
      = ((ofList pairs).map Prod.fst).length := (List.length_map Prod.fst).symm
    _ = (pairs.map Prod.fst).dedup.length := hperm.length_eq

/-- No field is lost exactly when no two pairs share a key. -/
theorem length_ofList_eq_iff {pairs : List (String × Json)} :
    (ofList pairs).length = pairs.length ↔ (pairs.map Prod.fst).Nodup := by
  rw [length_ofList, ← List.length_map Prod.fst, ← List.dedup_eq_self]
  constructor
  · exact (List.dedup_sublist _).eq_of_length
  · exact congrArg List.length

/-! ## Taking a key away -/

theorem erase_cons_self : erase key ((key, value) :: fields) = erase key fields :=
  List.filter_cons_of_neg (by simp)

theorem erase_cons_of_ne (hne : name ≠ key) :
    erase key ((name, value) :: fields) = (name, value) :: erase key fields :=
  List.filter_cons_of_pos (by simpa using hne)

theorem get?_erase_self : (fields.erase key).get? key = none := by
  rw [get?_eq_none_iff, List.mem_map]
  rintro ⟨entry, hentry, rfl⟩
  exact absurd rfl (of_decide_eq_true (List.mem_filter.mp hentry).2)

theorem get?_erase_of_ne (hne : key ≠ name) :
    (fields.erase name).get? key = fields.get? key := by
  induction fields with
  | nil => rfl
  | cons first rest ih =>
      obtain ⟨other, value⟩ := first
      by_cases hother : other = name
      · subst hother
        rw [erase_cons_self, ih, get?_cons_of_ne (Ne.symm hne)]
      · rw [erase_cons_of_ne hother]
        by_cases hkey : other = key
        · rw [hkey, get?_cons_self, get?_cons_self]
        · rw [get?_cons_of_ne hkey, get?_cons_of_ne hkey, ih]

theorem sorted_erase (h : Sorted fields) : Sorted (fields.erase key) :=
  h.sublist (List.filter_sublist.map Prod.fst)

/-! ## Changing the values -/

/-- The fields with each value changed, as its key tells. -/
def mapValues (change : String → Json → Json) (fields : Fields) : Fields :=
  fields.map fun entry => (entry.1, change entry.1 entry.2)

variable {change : String → Json → Json}

theorem mapValues_cons : mapValues change ((key, value) :: fields) =
    (key, change key value) :: mapValues change fields :=
  rfl

theorem keys_mapValues : (mapValues change fields).map Prod.fst = fields.map Prod.fst := by
  rw [mapValues, List.map_map]
  rfl

theorem get?_mapValues :
    (mapValues change fields).get? key = (fields.get? key).map (change key) := by
  induction fields with
  | nil => rfl
  | cons first rest ih =>
      obtain ⟨name, value⟩ := first
      rw [mapValues_cons]
      by_cases hname : name = key
      · rw [hname, get?_cons_self, get?_cons_self, Option.map_some]
      · rw [get?_cons_of_ne hname, get?_cons_of_ne hname, ih]

theorem mapValues_insert : mapValues change (fields.insert key value) =
    (mapValues change fields).insert key (change key value) := by
  induction fields with
  | nil => rfl
  | cons first rest ih =>
      obtain ⟨name, present⟩ := first
      rw [mapValues_cons]
      by_cases hname : key = name
      · rw [insert, insert, if_pos hname, if_pos hname, mapValues_cons]
      · by_cases hlt : key < name
        · rw [insert, insert, if_neg hname, if_neg hname, if_pos hlt, if_pos hlt, mapValues_cons,
            mapValues_cons]
        · rw [insert, insert, if_neg hname, if_neg hname, if_neg hlt, if_neg hlt, mapValues_cons,
            ih]

theorem mapValues_override : mapValues change (fields.override overriding) =
    (mapValues change fields).override (mapValues change overriding) := by
  induction overriding generalizing fields with
  | nil => rfl
  | cons first rest ih =>
      obtain ⟨name, value⟩ := first
      rw [override_cons, ih, mapValues_insert, mapValues_cons, override_cons]

theorem mapValues_erase :
    mapValues change (fields.erase key) = (mapValues change fields).erase key := by
  induction fields with
  | nil => rfl
  | cons first rest ih =>
      obtain ⟨name, value⟩ := first
      rw [mapValues_cons]
      by_cases hname : name = key
      · subst hname
        rw [erase_cons_self, erase_cons_self, ih]
      · rw [erase_cons_of_ne hname, erase_cons_of_ne hname, mapValues_cons, ih]

end Fields

/-! ## Ordered values -/

namespace Json

mutual

/-- Whether a value is ordered is decided object by object. -/
instance decidableOrdered : (value : Json) → Decidable (Ordered value)
  | .array items => decidableOrderedItems items
  | .object fields =>
    have := decidableOrderedFields fields
    inferInstanceAs (Decidable ((fields.map Prod.fst).Pairwise (· < ·) ∧ OrderedFields fields))
  | .null => isTrue trivial
  | .bool _ => isTrue trivial
  | .number _ => isTrue trivial
  | .string _ => isTrue trivial

instance decidableOrderedItems : (items : List Json) → Decidable (OrderedItems items)
  | [] => isTrue trivial
  | item :: rest =>
    have := decidableOrdered item
    have := decidableOrderedItems rest
    inferInstanceAs (Decidable (Ordered item ∧ OrderedItems rest))

instance decidableOrderedFields : (fields : List (String × Json)) →
    Decidable (OrderedFields fields)
  | [] => isTrue trivial
  | (_, value) :: rest =>
    have := decidableOrdered value
    have := decidableOrderedFields rest
    inferInstanceAs (Decidable (Ordered value ∧ OrderedFields rest))

end

theorem ordered_array_iff {items : List Json} :
    Ordered (.array items) ↔ ∀ item ∈ items, Ordered item := by
  rw [Ordered]
  induction items with
  | nil => simp [OrderedItems]
  | cons first rest ih => rw [OrderedItems, ih, List.forall_mem_cons]

theorem ordered_object_iff {fields : Fields} :
    Ordered (.object fields) ↔ fields.Sorted ∧ ∀ entry ∈ fields, Ordered entry.2 := by
  have hvalues : OrderedFields fields ↔ ∀ entry ∈ fields, Ordered entry.2 := by
    induction fields with
    | nil => simp [OrderedFields]
    | cons first rest ih =>
        obtain ⟨name, value⟩ := first
        rw [OrderedFields, ih, List.forall_mem_cons]
  rw [Ordered, hvalues]
  rfl

theorem Ordered.of_get? {tree value : Json} {key : String} (h : tree.Ordered)
    (hvalue : tree.get? key = some value) : value.Ordered := by
  cases tree with
  | object fields => exact (ordered_object_iff.mp h).2 _ (Fields.mem_of_get? hvalue)
  | _ => cases hvalue

end Json

end RegistryClient

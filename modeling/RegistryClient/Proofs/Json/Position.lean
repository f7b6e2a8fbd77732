import RegistryClient.Proofs.Json

/-!
# Positions in JSON values

A position says how a value lies inside another one: the keys and the indices on the
way to it, outermost first (`At`).  `changeScalars` changes the scalars of a value, each
according to its position, and nothing else: not the keys of an object, their order, the
number of items of an array or their order.
-/

namespace RegistryClient.Json

/-- One step into a value. -/
inductive Step where
  | item (index : Nat)
  | key (name : String)
deriving DecidableEq, Repr

/-- The way from a value to one inside it. -/
abbrev Position := List Step

/-- The keys on a way; the indices are left out. -/
def keysOn : Position → List String
  | [] => []
  | .item _ :: rest => keysOn rest
  | .key name :: rest => name :: keysOn rest

/-- A value lies in the first one at a position. -/
inductive At : Json → Position → Json → Prop where
  | here {value : Json} : At value [] value
  | item {items : List Json} {index : Nat} {item value : Json} {position : Position} :
      items[index]? = some item → At item position value →
      At (.array items) (.item index :: position) value
  | key {fields : Fields} {name : String} {entry value : Json} {position : Position} :
      (name, entry) ∈ fields → At entry position value →
      At (.object fields) (.key name :: position) value

mutual

/-- The value with every scalar in it changed, as its position tells. -/
def changeScalars (change : Position → Json → Json) : Json → Json
  | .array items => .array (changeItems change 0 items)
  | .object fields => .object (changeFields change fields)
  | scalar => change [] scalar

/-- The items of an array from an index on, with their scalars changed. -/
def changeItems (change : Position → Json → Json) (index : Nat) : List Json → List Json
  | [] => []
  | item :: rest =>
    changeScalars (fun position => change (.item index :: position)) item ::
      changeItems change (index + 1) rest

/-- The fields of an object, with the scalars of their values changed. -/
def changeFields (change : Position → Json → Json) :
    List (String × Json) → List (String × Json)
  | [] => []
  | (key, value) :: rest =>
    (key, changeScalars (fun position => change (.key key :: position)) value) ::
      changeFields change rest

end

theorem map_mapIdx_eq {α β γ : Type} {items : List α} {change : Nat → α → β} {further : β → γ}
    {both : Nat → α → γ}
    (h : ∀ index (hindex : index < items.length),
      further (change index items[index]) = both index items[index]) :
    (items.mapIdx change).map further = items.mapIdx both :=
  List.ext_getElem (by simp) fun index hindex _ => by
    simpa using h index (by simpa using hindex)

theorem changeItems_eq_mapIdx (change : Position → Json → Json) (start : Nat) (items : List Json) :
    changeItems change start items = items.mapIdx fun index item =>
      changeScalars (fun position => change (.item (index + start) :: position)) item := by
  induction items generalizing start with
  | nil => rfl
  | cons item rest ih =>
      rw [changeItems, ih, List.mapIdx_cons, Nat.zero_add]
      simp only [Nat.add_assoc, Nat.add_comm 1 start]

theorem changeFields_eq_map (change : Position → Json → Json) (fields : Fields) :
    changeFields change fields = fields.map fun field =>
      (field.1, changeScalars (fun position => change (.key field.1 :: position)) field.2) := by
  induction fields with
  | nil => rfl
  | cons field rest ih =>
      obtain ⟨key, value⟩ := field
      rw [changeFields, ih, List.map_cons]

theorem changeScalars_scalar (change : Position → Json → Json) {value : Json}
    (hscalar : value.isScalar = true) : changeScalars change value = change [] value := by
  cases value <;> first | rfl | cases hscalar

theorem changeScalars_array (change : Position → Json → Json) (items : List Json) :
    changeScalars change (.array items) = .array (items.mapIdx fun index item =>
      changeScalars (fun position => change (.item index :: position)) item) := by
  rw [changeScalars, changeItems_eq_mapIdx]
  simp only [Nat.add_zero]

theorem changeScalars_object (change : Position → Json → Json) (fields : Fields) :
    changeScalars change (.object fields) = .object (fields.map fun field =>
      (field.1, changeScalars (fun position => change (.key field.1 :: position)) field.2)) := by
  rw [changeScalars, changeFields_eq_map]

theorem changeScalars_eq_self (tree : Json) :
    changeScalars (fun _ scalar => scalar) tree = tree := by
  induction tree using Json.induct with
  | scalar value hscalar => exact changeScalars_scalar _ hscalar
  | array items ih =>
      rw [changeScalars_array]
      refine congrArg Json.array (List.ext_getElem (by simp) fun index hindex hitem => ?_)
      rw [List.getElem_mapIdx, ih items[index] (List.getElem_mem hitem)]
  | object fields ih =>
      have hfields : (fields.map fun field =>
          (field.1, changeScalars (fun _ scalar => scalar) field.2)) = fields.map id :=
        List.map_congr_left fun field hfield => congrArg (Prod.mk field.1) (ih field hfield)
      rw [changeScalars_object, hfields, List.map_id]

end RegistryClient.Json

import RegistryClient.Query.Document

/-!
# Keys of query documents

What stands for a connective, a match mode, a comparison or a field in a query
document.  The tables by which documents are read are these keys, read the other
way round: `ofKey?` gives what has a key, and nothing else.
-/

namespace RegistryClient.Query

def Connective.key : Connective → String
  | .and => "and"
  | .or => "or"

def TextMode.key : TextMode → String
  | .words => "words"
  | .contains => "contains"
  | .exact => "exact"

def IdMode.key : IdMode → String
  | .words => "words"
  | .exact => "exact"

/-- The key of a comparison of the release date. -/
def Bound.dateKey : Bound → String
  | .exactly => "date"
  | .atMost => "before"
  | .atLeast => "after"

/-- The key of a comparison of the approximate length. -/
def Bound.lengthKey : Bound → String
  | .exactly => "length"
  | .atMost => "maxlength"
  | .atLeast => "minlength"

/-- The name of a field whose presence is asked for. -/
def Field.key : Field → String
  | .element searched => searched.key
  | .date => "date"
  | .length => "length"

theorem Connective.ofKey?_eq_some_iff {key : String} {connective : Connective} :
    Connective.ofKey? key = some connective ↔ key = connective.key := by
  constructor
  · intro h
    unfold Connective.ofKey? at h
    split at h <;> cases h <;> rfl
  · rintro rfl
    cases connective <;> rfl

theorem TextMode.ofKey?_eq_some_iff {key : String} {mode : TextMode} :
    TextMode.ofKey? key = some mode ↔ key = mode.key := by
  constructor
  · intro h
    unfold TextMode.ofKey? at h
    split at h <;> cases h <;> rfl
  · rintro rfl
    cases mode <;> rfl

theorem IdMode.ofKey?_eq_some_iff {key : String} {mode : IdMode} :
    IdMode.ofKey? key = some mode ↔ key = mode.key := by
  constructor
  · intro h
    unfold IdMode.ofKey? at h
    split at h <;> cases h <;> rfl
  · rintro rfl
    cases mode <;> rfl

theorem Element.ofKey?_eq_some_iff {key : String} {element : Element} :
    Element.ofKey? key = some element ↔ key = element.key := by
  constructor
  · intro h
    have hfound := List.find?_some h
    exact (of_decide_eq_true hfound).symm
  · rintro rfl
    cases element <;> rfl

/-- No element is called like one of the other two fields. -/
theorem Field.ofKey?_eq_some_iff {key : String} {field : Field} :
    Field.ofKey? key = some field ↔ key = field.key := by
  constructor
  · intro h
    unfold Field.ofKey? at h
    split at h
    · cases h
      rfl
    · cases h
      rfl
    · obtain ⟨searched, hsearched, rfl⟩ := Option.map_eq_some_iff.mp h
      exact Element.ofKey?_eq_some_iff.mp hsearched
  · rintro rfl
    cases field with
    | element searched => cases searched <;> rfl
    | date => rfl
    | length => rfl

/-- A table that is its keys the other way round gives nothing for anything else. -/
theorem ofKey?_eq_none_iff {Named : Type} {ofKey? : String → Option Named}
    {keyOf : Named → String}
    (htable : ∀ {key : String} {named : Named}, ofKey? key = some named ↔ key = keyOf named)
    {key : String} : ofKey? key = none ↔ ∀ named, key ≠ keyOf named := by
  rw [Option.eq_none_iff_forall_ne_some]
  exact forall_congr' fun named => not_congr htable

end RegistryClient.Query

import Mathlib.Data.List.Forall2

/-!
# Computations that may fail

A sequence of steps succeeds exactly when each of its steps does, and fails as the
first step that does not.
-/

namespace RegistryClient.Outcome

variable {ε α β : Type}

theorem bind_eq_ok_iff {step : Except ε α} {next : α → Except ε β} {result : β} :
    step >>= next = .ok result ↔ ∃ value, step = .ok value ∧ next value = .ok result := by
  cases step with
  | error fault => simp [bind, Except.bind]
  | ok value => simp [bind, Except.bind]

theorem map_eq_ok_iff {step : Except ε α} {change : α → β} {result : β} :
    step.map change = .ok result ↔ ∃ value, step = .ok value ∧ change value = result := by
  cases step with
  | error fault => simp [Except.map]
  | ok value => simp [Except.map]

theorem bind_eq_error_iff {step : Except ε α} {next : α → Except ε β} {fault : ε} :
    step >>= next = .error fault ↔
      step = .error fault ∨ ∃ value, step = .ok value ∧ next value = .error fault := by
  cases step with
  | error cause => simp [bind, Except.bind]
  | ok value => simp [bind, Except.bind]

theorem map_eq_error_iff {step : Except ε α} {change : α → β} {fault : ε} :
    step.map change = .error fault ↔ step = .error fault := by
  cases step with
  | error cause => simp [Except.map]
  | ok value => simp [Except.map]

theorem mapError_eq_ok_iff {δ : Type} {step : Except ε α} {change : ε → δ} {result : α} :
    step.mapError change = .ok result ↔ step = .ok result := by
  cases step with
  | error cause =>
      constructor
      · intro h
        cases h
      · intro h
        cases h
  | ok value =>
      constructor
      · intro h
        cases h
        rfl
      · intro h
        cases h
        rfl

theorem exists_eq_ok_iff {step : Except ε α} :
    (∃ value, step = .ok value) ↔ ∀ fault, step ≠ .error fault := by
  cases step with
  | error cause => simp
  | ok value => simp

/-- Steps for the items of a list in order succeed with the results of the steps. -/
theorem mapM_eq_ok_iff {step : α → Except ε β} {items : List α} {results : List β} :
    items.mapM step = .ok results ↔
      List.Forall₂ (fun item result => step item = .ok result) items results := by
  induction items generalizing results with
  | nil => simp [pure, Except.pure, eq_comm]
  | cons item rest ih =>
      simp only [List.mapM_cons, bind_eq_ok_iff, ih, List.forall₂_cons_left_iff]
      constructor
      · rintro ⟨first, hfirst, others, hothers, hresults⟩
        exact ⟨first, others, hfirst, hothers, (Except.ok.inj hresults).symm⟩
      · rintro ⟨first, others, hfirst, hothers, rfl⟩
        exact ⟨first, hfirst, others, hothers, rfl⟩

/-- Steps that come to the same item by item come to the same in order. -/
theorem mapM_congr {step : α → Except ε β} {items others : List α}
    (h : List.Forall₂ (fun item other => step item = step other) items others) :
    items.mapM step = others.mapM step := by
  induction h with
  | nil => rfl
  | cons hitem _ ih => rw [List.mapM_cons, List.mapM_cons, hitem, ih]

end RegistryClient.Outcome

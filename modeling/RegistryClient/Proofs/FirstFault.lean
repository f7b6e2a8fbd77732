import RegistryClient.Proofs.Outcome

/-!
# The first fault of several things

Things are examined in order, and the first one with a fault decides: whatever
stands after it is not looked at.  `mapM_eq_error_iff` carries this from the parts of
single things to the parts of a list of them.
-/

namespace RegistryClient

variable {α β γ ε : Type} {HasFault : α → ε → Prop}

/-- The fault is that of one of the items, and no item before that one has any. -/
def FirstFault (HasFault : α → ε → Prop) (items : List α) (fault : ε) : Prop :=
  ∃ before item after, items = before ++ item :: after ∧
    (∀ earlier ∈ before, ∀ cause, ¬ HasFault earlier cause) ∧ HasFault item fault

theorem not_firstFault_nil {fault : ε} : ¬ FirstFault HasFault [] fault := by
  rintro ⟨before, item, after, hitems, -⟩
  simp at hitems

theorem firstFault_cons_iff {item : α} {rest : List α} {fault : ε} :
    FirstFault HasFault (item :: rest) fault ↔
      HasFault item fault ∨
        (∀ cause, ¬ HasFault item cause) ∧ FirstFault HasFault rest fault := by
  constructor
  · rintro ⟨before, faulty, after, hitems, hbefore, hfault⟩
    cases before with
    | nil =>
        obtain ⟨rfl, -⟩ := List.cons.inj hitems
        exact Or.inl hfault
    | cons first others =>
        obtain ⟨rfl, hrest⟩ := List.cons.inj hitems
        obtain ⟨hfirst, hothers⟩ := List.forall_mem_cons.mp hbefore
        exact Or.inr ⟨hfirst, others, faulty, after, hrest, hothers, hfault⟩
  · rintro (hfault | ⟨hitem, before, faulty, after, rfl, hbefore, hfault⟩)
    · exact ⟨[], item, rest, rfl, by simp, hfault⟩
    · exact ⟨item :: before, faulty, after, rfl, List.forall_mem_cons.mpr ⟨hitem, hbefore⟩, hfault⟩

theorem firstFault_singleton_iff {item : α} {fault : ε} :
    FirstFault HasFault [item] fault ↔ HasFault item fault := by
  rw [firstFault_cons_iff]
  exact or_iff_left fun h => not_firstFault_nil h.2

theorem firstFault_append_iff {items others : List α} {fault : ε} :
    FirstFault HasFault (items ++ others) fault ↔
      FirstFault HasFault items fault ∨
        (∀ item ∈ items, ∀ cause, ¬ HasFault item cause) ∧ FirstFault HasFault others fault := by
  induction items with
  | nil => simp [not_firstFault_nil]
  | cons item rest ih =>
      rw [List.cons_append, firstFault_cons_iff, firstFault_cons_iff, ih, List.forall_mem_cons,
        and_or_left, or_assoc, and_assoc]

/-- Some item has a fault exactly when one is the first. -/
theorem exists_firstFault_iff {items : List α} :
    (∃ fault, FirstFault HasFault items fault) ↔ ∃ item ∈ items, ∃ fault, HasFault item fault := by
  induction items with
  | nil => simp [not_firstFault_nil]
  | cons item rest ih =>
      simp only [List.mem_cons, exists_eq_or_imp, ← ih, firstFault_cons_iff]
      constructor
      · rintro ⟨fault, hfault | ⟨-, hfault⟩⟩
        · exact Or.inl ⟨fault, hfault⟩
        · exact Or.inr ⟨fault, hfault⟩
      · rintro (⟨fault, hfault⟩ | ⟨fault, hfault⟩)
        · exact ⟨fault, Or.inl hfault⟩
        · by_cases hitem : ∃ cause, HasFault item cause
          · exact hitem.imp fun cause hcause => Or.inl hcause
          · exact ⟨fault, Or.inr ⟨not_exists.mp hitem, hfault⟩⟩

/-- A step that fails with the first fault of its parts succeeds when none has one. -/
theorem exists_eq_ok_iff_of_firstFault {step : Except ε β} {parts : List α}
    (hstep : ∀ fault, step = .error fault ↔ FirstFault HasFault parts fault) :
    (∃ value, step = .ok value) ↔ ∀ part ∈ parts, ∀ cause, ¬ HasFault part cause := by
  have hnone : (∀ fault, ¬ FirstFault HasFault parts fault) ↔
      ∀ part ∈ parts, ∀ cause, ¬ HasFault part cause := by
    rw [← not_exists, exists_firstFault_iff]
    simp only [not_exists, not_and]
  rw [Outcome.exists_eq_ok_iff, ← hnone]
  exact forall_congr' fun fault => not_congr (hstep fault)

/-- When each step fails with the first fault of its parts, so do the steps in
order, of all their parts. -/
theorem mapM_eq_error_iff {step : γ → Except ε β} {parts : γ → List α} {items : List γ}
    (hstep : ∀ item ∈ items, ∀ fault,
      step item = .error fault ↔ FirstFault HasFault (parts item) fault) {fault : ε} :
    items.mapM step = .error fault ↔ FirstFault HasFault (items.flatMap parts) fault := by
  induction items with
  | nil => simp [not_firstFault_nil, pure, Except.pure]
  | cons item rest ih =>
      obtain ⟨hitem, hrest⟩ := List.forall_mem_cons.mp hstep
      -- later items count once the step at this one succeeds, so when no part of it is at fault
      rw [List.mapM_cons, Outcome.bind_eq_error_iff, List.flatMap_cons, firstFault_append_iff,
        hitem, ← ih hrest, ← exists_eq_ok_iff_of_firstFault hitem]
      simp only [Outcome.bind_eq_error_iff, pure, Except.pure, reduceCtorEq, and_false, exists_false,
        or_false, exists_and_right]

end RegistryClient

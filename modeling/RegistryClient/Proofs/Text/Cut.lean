import RegistryClient.Text.Cut

/-!
# What cutting finds

`after?` undoes putting a word in front of a text, and it finds nothing else.
`cutAt?` stops at the first place where its marker stands, so a text is cut at a
marker put behind it whenever the marker does not begin earlier: this is the case
when the marker's first character does not occur in the text.
-/

namespace RegistryClient.Text

/-! ## A word in front -/

@[simp] theorem after?_append (word rest : List Char) : after? word (word ++ rest) = some rest := by
  induction word with
  | nil => rfl
  | cons c word ih => simp [after?, ih]

theorem after?_eq_some_iff {word chars rest : List Char} :
    after? word chars = some rest ↔ chars = word ++ rest := by
  induction word generalizing chars with
  | nil => simp [after?]
  | cons expected word ih =>
      cases chars with
      | nil => simp [after?]
      | cons c chars =>
          by_cases hc : expected = c
          · subst hc
            simp [after?, ih]
          · have hne : c ≠ expected := fun h => hc h.symm
            simp [after?, hc, hne]

/-- A word is not in front of a text that begins differently. -/
theorem after?_cons_of_ne {expected c : Char} (word chars : List Char) (hc : expected ≠ c) :
    after? (expected :: word) (c :: chars) = none := by
  rw [after?, if_neg hc]

theorem length_lt_of_after? {expected : Char} {word chars rest : List Char}
    (h : after? (expected :: word) chars = some rest) : rest.length < chars.length := by
  rw [after?_eq_some_iff.mp h]
  simp only [List.cons_append, List.length_cons, List.length_append]
  omega

/-! ## The first place of a marker -/

/-- A character at which the marker does not begin stands before the cut. -/
theorem cutAt?_cons {marker : List Char} {c : Char} {chars : List Char}
    (h : after? marker (c :: chars) = none) :
    cutAt? marker (c :: chars) =
      (cutAt? marker chars).map fun (before, more) => (c :: before, more) := by
  rw [cutAt?, h]

/-- A text that begins with the marker is cut there. -/
theorem cutAt?_append (c : Char) (marker rest : List Char) :
    cutAt? (c :: marker) (c :: marker ++ rest) = some ([], rest) := by
  rw [List.cons_append, cutAt?, ← List.cons_append, after?_append]

/-- Where the marker's first character does not occur, the marker does not begin. -/
theorem cutAt?_of_notMem {c : Char} {before : List Char} (marker rest : List Char)
    (hc : c ∉ before) : cutAt? (c :: marker) (before ++ c :: marker ++ rest) = some (before, rest) := by
  induction before with
  | nil => exact cutAt?_append c marker rest
  | cons first before ih =>
      have hfirst : c ≠ first := fun h => hc (h ▸ List.mem_cons_self ..)
      have hbefore : c ∉ before := fun h => hc (List.mem_cons_of_mem _ h)
      rw [List.cons_append, List.cons_append, cutAt?_cons (after?_cons_of_ne _ _ hfirst),
        ih hbefore]
      rfl

theorem length_le_of_cutAt? {marker chars before rest : List Char}
    (h : cutAt? marker chars = some (before, rest)) : rest.length ≤ chars.length := by
  induction chars generalizing before with
  | nil => simp [cutAt?] at h
  | cons c chars ih =>
      rw [cutAt?] at h
      split at h
      · next more hmore =>
        have hchars := after?_eq_some_iff.mp hmore
        have hlength := congrArg List.length hchars
        simp only [Option.some.injEq, Prod.mk.injEq] at h
        rw [← h.2, hlength, List.length_append]
        exact Nat.le_add_left _ _
      · obtain ⟨⟨between, more⟩, hcut, heq⟩ := Option.map_eq_some_iff.mp h
        obtain ⟨-, rfl⟩ := Prod.mk.inj heq
        exact Nat.le_succ_of_le (ih hcut)

end RegistryClient.Text

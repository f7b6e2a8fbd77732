import RegistryClient.Text.Blank

/-!
# Splitting and joining

The pieces of a text are `Separated` when there is no separator in any of them and the
text is all of them in order with one separator between each two.  Every text has
exactly one list of pieces, and `split` finds it (`separated_iff`), so that splitting
and joining undo each other.
-/

namespace RegistryClient.Text

/-- The text is these pieces with separators between them, and has no other separators. -/
structure Separated (separator : Char) (pieces : List String) (text : String) : Prop where
  ne_nil : pieces ≠ []
  notMem : ∀ piece ∈ pieces, separator ∉ piece.toList
  joined : (String.singleton separator).intercalate pieces = text

/-- There is always a last piece. -/
theorem Separated.exists_eq_append_singleton {separator : Char} {pieces : List String}
    {text : String} (h : Separated separator pieces text) :
    ∃ before last, pieces = before ++ [last] :=
  ⟨_, _, (List.dropLast_concat_getLast h.ne_nil).symm⟩

theorem joinWith_eq_intercalate (separator : String) (texts : List String) :
    joinWith separator texts = separator.intercalate texts := by
  induction texts with
  | nil => exact String.intercalate_nil.symm
  | cons first rest ih =>
      cases rest with
      | nil => exact String.intercalate_singleton.symm
      | cons second rest =>
          rw [String.intercalate_cons_cons, ← ih]
          rfl

theorem splitChars_eq_splitOn (separator : Char) (chars : List Char) :
    splitChars separator chars = chars.splitOn separator := by
  induction chars with
  | nil => rfl
  | cons c rest ih =>
      obtain ⟨piece, pieces, hpieces⟩ :=
        List.exists_cons_of_ne_nil (List.splitOn_ne_nil separator rest)
      rw [splitChars, ih, List.splitOn_cons_eq_if_modifyHead, hpieces]
      by_cases hc : c = separator
      · rw [if_pos hc, if_pos (beq_iff_eq.mpr hc)]
      · rw [if_neg hc, if_neg (mt beq_iff_eq.mp hc), List.modifyHead_cons]

/-- No separator is left in a piece. -/
theorem notMem_of_mem_splitOn {separator : Char} {chars piece : List Char}
    (h : piece ∈ chars.splitOn separator) : separator ∉ piece := by
  induction chars generalizing piece with
  | nil =>
      obtain rfl : piece = [] := List.mem_singleton.mp h
      exact List.not_mem_nil
  | cons c rest ih =>
      rw [List.splitOn_cons_eq_if_modifyHead] at h
      split at h
      · rcases List.mem_cons.mp h with rfl | hrest
        · exact List.not_mem_nil
        · exact ih hrest
      · next hc =>
        have hne : separator ≠ c := fun heq => hc (beq_iff_eq.mpr heq.symm)
        obtain ⟨first, others, hpieces⟩ :=
          List.exists_cons_of_ne_nil (List.splitOn_ne_nil separator rest)
        have hrest : ∀ piece ∈ first :: others, separator ∉ piece := fun piece hmem =>
          ih (hpieces ▸ hmem)
        obtain ⟨hfirst, hothers⟩ := List.forall_mem_cons.mp hrest
        -- the character is put in front of the first of the other pieces
        rw [hpieces, List.modifyHead_cons] at h
        rcases List.mem_cons.mp h with rfl | hmem
        · exact List.not_mem_cons_of_ne_of_not_mem hne hfirst
        · exact hothers piece hmem

theorem separated_split (separator : Char) (text : String) :
    Separated separator (split separator text) text where
  ne_nil := by
    rw [split, splitChars_eq_splitOn, ne_eq, List.map_eq_nil_iff]
    exact List.splitOn_ne_nil separator text.toList
  notMem := by
    intro piece hpiece
    obtain ⟨chars, hchars, rfl⟩ := List.mem_map.mp hpiece
    rw [splitChars_eq_splitOn] at hchars
    rw [String.toList_ofList]
    exact notMem_of_mem_splitOn hchars
  joined := by
    rw [← String.toList_inj, String.toList_intercalate, split, List.map_map,
      splitChars_eq_splitOn]
    simp [Function.comp_def, List.intercalate_splitOn]

/-- **Splitting finds the pieces of a text, and a text has no others.** -/
theorem separated_iff {separator : Char} {pieces : List String} {text : String} :
    Separated separator pieces text ↔ pieces = split separator text := by
  constructor
  · rintro ⟨hne, hnotMem, rfl⟩
    have hchars : ∀ chars ∈ pieces.map String.toList, separator ∉ chars :=
      List.forall_mem_map.mpr hnotMem
    have hsplit := List.splitOn_intercalate separator hchars (mt List.map_eq_nil_iff.mp hne)
    rw [split, String.toList_intercalate, splitChars_eq_splitOn, String.toList_singleton, hsplit,
      List.map_map]
    simp [Function.comp_def]
  · rintro rfl
    exact separated_split separator text

end RegistryClient.Text

import Mathlib.Data.List.Forall2
import RegistryClient.Proofs.Text.Split
import RegistryClient.Record.WrapRule

/-!
# Rules and their texts

A text is that of a rule exactly when no piece between its dots is empty and the last
piece is no wildcard.  The steps of the rule are then what the pieces stand for, one by one
(`parse_eq_ok_iff`): a piece that is `*` and nothing else stands for the step through any
key, every other piece for the step through the key that it is, so that a `*` among other
characters is one of the key.

A step is written as the piece that stands for it.  Hence a rule that is read from a text
is written as that text (`text_of_parse`), and rules that are read and their texts
correspond one to one (`parse_one_to_one`).
-/

namespace RegistryClient.Record

namespace Segment

/-- What a piece of the text of a rule stands for. -/
inductive StandsFor : String → Segment → Prop where
  | any : StandsFor "*" .any
  | key {name : String} : name ≠ "*" → StandsFor name (.key name)

theorem standsFor_iff {piece : String} {segment : Segment} :
    StandsFor piece segment ↔ ofText piece = segment := by
  constructor
  · intro h
    cases h with
    | any => rfl
    | key hname => exact if_neg hname
  · rintro rfl
    by_cases hpiece : piece = "*"
    · subst hpiece
      exact .any
    · have hkey : ofText piece = .key piece := if_neg hpiece
      rw [hkey]
      exact .key hpiece

/-- A step is written as the piece that stands for it. -/
theorem text_ofText (piece : String) : (ofText piece).text = piece := by
  by_cases hpiece : piece = wildcard
  · rw [ofText, if_pos hpiece]
    exact hpiece.symm
  · rw [ofText, if_neg hpiece]
    rfl

theorem standsFor_key_iff {piece name : String} :
    StandsFor piece (.key name) ↔ piece ≠ "*" ∧ piece = name := by
  constructor
  · intro h
    cases h with
    | key hname => exact ⟨hname, rfl⟩
  · rintro ⟨hpiece, rfl⟩
    exact .key hpiece

end Segment

namespace WrapRule

open List (Forall₂)

variable {pieces : List String} {text : String} {rule : WrapRule}

/-! ## What the pieces stand for -/

theorem forall₂_standsFor_iff {segments : List Segment} :
    Forall₂ Segment.StandsFor pieces segments ↔ pieces.map Segment.ofText = segments := by
  rw [← List.forall₂_eq_eq_eq, List.forall₂_map_left_iff]
  constructor
  · exact List.Forall₂.imp fun _ _ => Segment.standsFor_iff.mp
  · exact List.Forall₂.imp fun _ _ => Segment.standsFor_iff.mpr

theorem forall₂_standsFor_steps_iff {before : List String} {last : String} :
    Forall₂ Segment.StandsFor (before ++ [last]) rule.steps ↔
      last ≠ "*" ∧ ⟨before.map Segment.ofText, last⟩ = rule := by
  obtain ⟨path, field⟩ := rule
  rw [forall₂_standsFor_iff, steps, List.map_append, List.map_singleton, List.append_singleton_inj,
    ← Segment.standsFor_iff, Segment.standsFor_key_iff, mk.injEq]
  exact and_left_comm

/-- The pieces of a text stand for the steps of a rule unless the last of them is a wildcard. -/
theorem exists_forall₂_standsFor_iff (hpieces : Text.Separated '.' pieces text) :
    (∃ rule : WrapRule, Forall₂ Segment.StandsFor pieces rule.steps) ↔
      pieces.getLast? ≠ some "*" := by
  obtain ⟨before, last, rfl⟩ := hpieces.exists_eq_append_singleton
  simp [forall₂_standsFor_steps_iff]

/-- A rule is written as the pieces that stand for its steps. -/
theorem text_of_forall₂_standsFor (h : Forall₂ Segment.StandsFor pieces rule.steps) :
    rule.text = Text.joinWith "." pieces := by
  have htexts : rule.steps.map Segment.text = pieces := by
    rw [← forall₂_standsFor_iff.mp h, List.map_map]
    exact List.map_id'' Segment.text_ofText pieces
  rw [← htexts, steps, List.map_append]
  rfl

/-! ## Reading a text -/

theorem parse_eq_ok_iff (hpieces : Text.Separated '.' pieces text) :
    parse text = .ok rule ↔
      (∀ piece ∈ pieces, piece ≠ "") ∧ Forall₂ Segment.StandsFor pieces rule.steps := by
  obtain ⟨before, last, rfl⟩ := hpieces.exists_eq_append_singleton
  have hempty : (before ++ [last]).any (· == "") = true ↔
      ¬ ∀ piece ∈ before ++ [last], piece ≠ "" := by
    simp
  rw [forall₂_standsFor_steps_iff, parse, ← Text.separated_iff.mp hpieces, List.getLastD_concat,
    List.dropLast_concat]
  split
  · next hany => exact ⟨nofun, fun h => absurd h.1 (hempty.mp hany)⟩
  · next hany =>
    have hpresent := not_not.mp (mt hempty.mpr hany)
    split
    · next hlast => exact ⟨nofun, fun h => absurd hlast h.2.1⟩
    · next hlast =>
      have hfield : last ≠ "*" := hlast
      rw [Except.ok.injEq, and_iff_right hpresent, and_iff_right hfield]

theorem text_of_parse (h : parse text = .ok rule) : rule.text = text := by
  have hpieces := Text.separated_split '.' text
  rw [text_of_forall₂_standsFor ((parse_eq_ok_iff hpieces).mp h).2, Text.joinWith_eq_intercalate]
  exact hpieces.joined

/-- **Rules that are read and their texts correspond one to one.**  Every text has one list of
pieces with dots between them.  It is read as a rule exactly when none of them is empty and the last
one is no wildcard; the pieces then stand for the steps, the rule is written as the text, reading
that again gives the rule again, and no other text gives it. -/
theorem parse_one_to_one (text : String) :
    ∃ pieces, (∀ others, Text.Separated '.' others text ↔ others = pieces) ∧
      ((∃ rule, parse text = .ok rule) ↔
        (∀ piece ∈ pieces, piece ≠ "") ∧ pieces.getLast? ≠ some "*") ∧
      ∀ rule, parse text = .ok rule →
        Forall₂ Segment.StandsFor pieces rule.steps ∧ rule.text = text ∧
          parse rule.text = .ok rule ∧
          ∀ other otherRule, parse other = .ok otherRule → (otherRule = rule ↔ other = text) := by
  have hpieces := Text.separated_split '.' text
  refine ⟨Text.split '.' text, fun _ => Text.separated_iff, ?_, fun rule hrule => ?_⟩
  · rw [← exists_forall₂_standsFor_iff hpieces, ← exists_and_left]
    exact exists_congr fun rule => parse_eq_ok_iff hpieces
  · have htext := text_of_parse hrule
    refine ⟨((parse_eq_ok_iff hpieces).mp hrule).2, htext, htext.symm ▸ hrule, ?_⟩
    intro other otherRule hother
    constructor
    · rintro rfl
      rw [← text_of_parse hother, htext]
    · rintro rfl
      exact Except.ok.inj (hother.symm.trans hrule)

/-- A wildcard beside keys with its character, and the same pieces in another order. -/
theorem parse_one_to_one_starred :
    parse "*.a*.**" = .ok ⟨[.any, .key "a*"], "**"⟩ ∧
      parse "a*.*.**" = .ok ⟨[.key "a*", .any], "**"⟩ ∧
      WrapRule.text ⟨[.any, .key "a*"], "**"⟩ = "*.a*.**" ∧
      ((⟨[.key "a*", .any], "**"⟩ : WrapRule) = ⟨[.any, .key "a*"], "**"⟩ ↔
        "a*.*.**" = "*.a*.**") := by
  have hparse : parse "*.a*.**" = .ok ⟨[.any, .key "a*"], "**"⟩ := by decide
  have hswapped : parse "a*.*.**" = .ok ⟨[.key "a*", .any], "**"⟩ := by decide
  obtain ⟨_, -, -, hrule⟩ := parse_one_to_one "*.a*.**"
  obtain ⟨-, htext, -, hother⟩ := hrule _ hparse
  exact ⟨hparse, hswapped, htext, hother _ _ hswapped⟩

end WrapRule

end RegistryClient.Record

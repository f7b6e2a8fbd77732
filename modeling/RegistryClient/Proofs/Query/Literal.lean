import Mathlib.Data.List.DropRight
import RegistryClient.Proofs.Query.Reader

/-!
# The end of a quoted value

From the mark that opens a quoted value it is read up to the first quotation mark that is
not escaped.  Reverse solidi take the meaning from each other in pairs, so a mark is escaped
when the run of them right in front of it is odd (`EscapesNext`).  A value ends at a mark
that is not escaped when all marks before it are (`EndsAtMark`), and the reader stops there
and nowhere else, in every text (`exists_readQuoted_iff`).

In the leaf of an exact test this is the mark that is put behind the value, whatever the value
and whatever follows the leaf: `exact_value_ends_at_closing_mark`.
-/

namespace RegistryClient.Query

/-! ## Escaped marks -/

/-- Of the reverse solidi at the end one has no partner, and takes the meaning from the
character that comes next. -/
def EscapesNext (chars : List Char) : Prop :=
  (chars.rtakeWhile (· = '\\')).length % 2 = 1

theorem not_escapesNext_nil : ¬ EscapesNext [] := by
  simp [EscapesNext]

theorem escapesNext_concat {chars : List Char} {c : Char} :
    EscapesNext (chars ++ [c]) ↔ c = '\\' ∧ ¬ EscapesNext chars := by
  rw [EscapesNext, EscapesNext, List.rtakeWhile_concat]
  by_cases hc : c = '\\'
  · simp only [hc, decide_true, if_true, List.length_append, List.length_singleton, true_and]
    omega
  · simp [hc]

theorem escapesNext_singleton_iff {c : Char} : EscapesNext [c] ↔ c = '\\' := by
  rw [← List.nil_append [c], escapesNext_concat, and_iff_left not_escapesNext_nil]

/-- A start that leaves nothing escaped does not count. -/
theorem escapesNext_append {start : List Char} (hstart : ¬ EscapesNext start)
    (chars : List Char) : EscapesNext (start ++ chars) ↔ EscapesNext chars := by
  induction chars using List.reverseRecOn with
  | nil => simp [hstart, not_escapesNext_nil]
  | append_singleton chars c ih =>
      rw [← List.append_assoc, escapesNext_concat, escapesNext_concat, ih]

/-- A quotation mark behind these characters is not escaped, but all among them are. -/
structure EndsAtMark (body : List Char) : Prop where
  not_escapesNext : ¬ EscapesNext body
  escapesNext : ∀ before after, body = before ++ '"' :: after → EscapesNext before

namespace EndsAtMark

theorem nil : EndsAtMark [] where
  not_escapesNext := not_escapesNext_nil
  escapesNext := by simp

theorem not_mark {body : List Char} : ¬ EndsAtMark ('"' :: body) := fun h =>
  not_escapesNext_nil (h.escapesNext [] body rfl)

theorem single {c : Char} (hquote : c ≠ '"') (hsolidus : c ≠ '\\') : EndsAtMark [c] where
  not_escapesNext := fun h => hsolidus (escapesNext_singleton_iff.mp h)
  escapesNext := by
    intro before after h
    have hmem : '"' ∈ [c] := h ▸ List.mem_append_right before List.mem_cons_self
    exact absurd (List.mem_singleton.mp hmem).symm hquote

theorem pair (c : Char) : EndsAtMark ['\\', c] where
  not_escapesNext := by
    rw [← List.singleton_append, escapesNext_concat, escapesNext_singleton_iff]
    exact fun h => h.2 rfl
  escapesNext := by
    intro before after h
    rcases before with _ | ⟨first, _ | ⟨second, before⟩⟩
    · simp at h
    · obtain ⟨rfl, -⟩ := List.cons.inj h
      exact escapesNext_singleton_iff.mpr rfl
    · simp at h

theorem append_iff {start body : List Char} (hstart : EndsAtMark start) :
    EndsAtMark (start ++ body) ↔ EndsAtMark body := by
  have hcount := escapesNext_append hstart.not_escapesNext
  constructor
  · rintro ⟨hlast, hmarks⟩
    refine ⟨mt (hcount body).mpr hlast, fun before after hbody => ?_⟩
    exact (hcount before).mp (hmarks (start ++ before) after (by rw [hbody, List.append_assoc]))
  · intro hbody
    refine ⟨mt (hcount body).mp hbody.not_escapesNext, fun before after h => ?_⟩
    rcases List.append_eq_append_iff.mp h with ⟨between, rfl, hmark⟩ | ⟨between, rfl, hmark⟩
    · exact (hcount between).mpr (hbody.escapesNext between after hmark)
    · cases between with
      | nil =>
          obtain rfl : '"' :: after = body := hmark
          exact absurd hbody not_mark
      | cons c between =>
          obtain ⟨rfl, -⟩ := List.cons.inj hmark
          exact hstart.escapesNext before between rfl

end EndsAtMark

/-! ## Where the reader stops -/

theorem exists_endsAtMark_of_readQuoted {chars value rest : List Char}
    (h : readQuoted chars = some (value, rest)) :
    ∃ body, EndsAtMark body ∧ chars = body ++ '"' :: rest := by
  fun_induction readQuoted chars generalizing value with
  | case1 => cases h
  | case2 more =>
      obtain ⟨-, rfl⟩ := Prod.mk.inj (Option.some.inj h)
      exact ⟨[], .nil, rfl⟩
  | case3 c more ih =>
      obtain ⟨⟨_, _⟩, hread, heq⟩ := Option.map_eq_some_iff.mp h
      obtain ⟨-, rfl⟩ := Prod.mk.inj heq
      obtain ⟨body, hbody, rfl⟩ := ih hread
      exact ⟨['\\', c] ++ body, (EndsAtMark.pair c).append_iff.mpr hbody, rfl⟩
  | case4 c more hquote hpair ih =>
      obtain ⟨⟨_, _⟩, hread, heq⟩ := Option.map_eq_some_iff.mp h
      obtain ⟨-, rfl⟩ := Prod.mk.inj heq
      obtain ⟨body, hbody, rfl⟩ := ih hread
      have hsolidus : c ≠ '\\' := by
        rintro rfl
        cases body with
        | nil => exact hpair _ _ rfl rfl
        | cons first body => exact hpair _ _ rfl rfl
      exact ⟨[c] ++ body, (EndsAtMark.single hquote hsolidus).append_iff.mpr hbody, rfl⟩

theorem EndsAtMark.exists_readQuoted {body : List Char} (h : EndsAtMark body)
    (rest : List Char) : ∃ value, readQuoted (body ++ '"' :: rest) = some (value, rest) := by
  induction body using readQuoted.induct with
  | case1 => exact ⟨[], rfl⟩
  | case2 more => exact absurd h not_mark
  | case3 c more ih =>
      obtain ⟨value, hread⟩ := ih ((pair c).append_iff.mp h)
      exact ⟨c :: value, by simp [readQuoted, hread]⟩
  | case4 c more hquote hpair ih =>
      have hsolidus : c ≠ '\\' := by
        rintro rfl
        cases more with
        | nil => exact h.not_escapesNext (escapesNext_singleton_iff.mpr rfl)
        | cons first more => exact hpair _ _ rfl rfl
      obtain ⟨value, hread⟩ := ih ((single hquote hsolidus).append_iff.mp h)
      exact ⟨c :: value, by simp [readQuoted, hsolidus, hread]⟩

/-- The reader stops at the first mark that is not escaped, and finds none only where there is
none. -/
theorem exists_readQuoted_iff {chars rest : List Char} :
    (∃ value, readQuoted chars = some (value, rest)) ↔
      ∃ body, EndsAtMark body ∧ chars = body ++ '"' :: rest := by
  constructor
  · rintro ⟨value, h⟩
    exact exists_endsAtMark_of_readQuoted h
  · rintro ⟨body, hbody, rfl⟩
    exact hbody.exists_readQuoted rest

/-- Of all marks in a text only the one at which the reader stops ends the value. -/
theorem endsAtMark_iff_of_readQuoted {body rest value left : List Char}
    (h : readQuoted (body ++ '"' :: rest) = some (value, left)) :
    EndsAtMark body ↔ rest = left := by
  constructor
  · intro hbody
    obtain ⟨other, hother⟩ := exists_readQuoted_iff.mpr ⟨body, hbody, rfl⟩
    rw [hother] at h
    exact (Prod.mk.inj (Option.some.inj h)).2
  · rintro rfl
    obtain ⟨read, hread, heq⟩ := exists_readQuoted_iff.mp ⟨value, h⟩
    rwa [List.append_cancel_right heq]

/-! ## The literal of an exact test -/

theorem escapeQuoted_injective : Function.Injective escapeQuoted := by
  intro first second h
  have hread := readQuoted_escapeQuoted first []
  rw [h, readQuoted_escapeQuoted second []] at hread
  exact (Prod.mk.inj (Option.some.inj hread)).1.symm

theorem toList_leaf_exact (path value : String) :
    (leaf path (.exact value)).toList =
      ("(" ++ path ++ " IS ").toList ++ '"' :: (escapeQuoted value.toList ++ '"' :: [')']) := by
  simp [leaf, Test.text, quoted]

/-- **A quoted value ends at its closing mark, whatever the value and whatever follows.**  When
there is no quotation mark in the path, the first one in the leaf opens the value.  The reader that
starts behind it reads the value and leaves what stands behind the closing mark; of all marks on the
way that one, and no earlier or later one, is the first that is not escaped.  Different values are
escaped differently. -/
theorem exact_value_ends_at_closing_mark {path : String} (hpath : '"' ∉ path.toList)
    (value following : String) :
    (∃ opened,
      Text.cutAt? ['"'] (leaf path (.exact value) ++ following).toList =
          some (("(" ++ path ++ " IS ").toList, opened) ∧
        readQuoted opened = some (value.toList, (")" ++ following).toList) ∧
        ∀ body rest, opened = body ++ '"' :: rest →
          (EndsAtMark body ↔ rest = (")" ++ following).toList)) ∧
      Function.Injective escapeQuoted := by
  refine ⟨⟨escapeQuoted value.toList ++ '"' :: (")" ++ following).toList, ?_, ?_, ?_⟩,
    escapeQuoted_injective⟩
  · have hopening : '"' ∉ ("(" ++ path ++ " IS ").toList := by simp [hpath]
    rw [String.toList_append, toList_leaf_exact]
    simpa using Text.cutAt?_of_notMem [] _ hopening
  · exact readQuoted_escapeQuoted _ _
  · intro body rest hopened
    have hread := readQuoted_escapeQuoted value.toList (")" ++ following).toList
    rw [hopened] at hread
    exact endsAtMark_iff_of_readQuoted hread

/-- A value with an odd run of reverse solidi in front of a mark and another one at its end, before
a text that begins with a mark. -/
theorem exact_value_ends_at_closing_mark_solidi :
    '"' ∉ "/x\\".toList ∧
      leaf "/x\\" (.exact "a\\\")(\\") = "(/x\\ IS \"a\\\\\\\")(\\\\\")" ∧
      ∃ opened,
        Text.cutAt? ['"'] (leaf "/x\\" (.exact "a\\\")(\\") ++ "\") OR (b").toList =
            some ("(/x\\ IS ".toList, opened) ∧
          readQuoted opened = some ("a\\\")(\\".toList, ")\") OR (b".toList) := by
  have hpath : '"' ∉ "/x\\".toList := by decide
  obtain ⟨⟨opened, hcut, hread, -⟩, -⟩ :=
    exact_value_ends_at_closing_mark hpath "a\\\")(\\" "\") OR (b"
  exact ⟨hpath, by decide, opened, hcut, hread⟩

end RegistryClient.Query

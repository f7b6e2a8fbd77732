import Mathlib.Data.List.TakeWhile
import RegistryClient.Text.Blank

/-!
# Trimming, joining and words

Trimming leaves a text alone that neither begins nor ends with a blank, and so it leaves a
trimmed text alone.

`Spaced words text` says of a text, without reference to how it is read, that it
consists of these words in order, with at least one blank between each two of
them and any number of blanks around them.  `words_eq_iff` shows that cutting a
text into words finds exactly the words that it consists of in this sense.
-/

namespace RegistryClient.Text

/-! ## Trimming -/

theorem dropWhile_isBlank_of_head {chars : List Char} (h : ∀ c ∈ chars.head?, isBlank c = false) :
    chars.dropWhile isBlank = chars := by
  cases chars with
  | nil => rfl
  | cons c rest => simp [h c rfl]

theorem trimChars_eq_self {chars : List Char} (hfirst : ∀ c ∈ chars.head?, isBlank c = false)
    (hlast : ∀ c ∈ chars.getLast?, isBlank c = false) : trimChars chars = chars := by
  have hreverse : ∀ c ∈ chars.reverse.head?, isBlank c = false := by
    rwa [List.head?_reverse]
  rw [trimChars, trimEndChars, dropWhile_isBlank_of_head hfirst,
    dropWhile_isBlank_of_head hreverse, List.reverse_reverse]

/-- Trimming leaves a text alone that neither begins nor ends with a blank. -/
theorem trim_eq_self {text : String} (hfirst : ∀ c ∈ text.toList.head?, isBlank c = false)
    (hlast : ∀ c ∈ text.toList.getLast?, isBlank c = false) : trim text = text := by
  rw [trim, trimChars_eq_self hfirst hlast, String.ofList_toList]

/-- What is left of a text behind its first blanks does not begin with a blank. -/
theorem isBlank_of_head?_dropWhile {c : Char} {chars : List Char}
    (hc : c ∈ (chars.dropWhile isBlank).head?) : isBlank c = false := by
  have hhead := List.head?_dropWhile_not isBlank chars
  rw [Option.mem_def.mp hc] at hhead
  exact hhead

theorem isBlank_of_getLast?_trimChars {c : Char} {chars : List Char}
    (hc : c ∈ (trimChars chars).getLast?) : isBlank c = false := by
  rw [trimChars, trimEndChars, List.getLast?_reverse] at hc
  exact isBlank_of_head?_dropWhile hc

theorem isBlank_of_head?_trimChars {c : Char} {chars : List Char}
    (hc : c ∈ (trimChars chars).head?) : isBlank c = false := by
  -- trimming the end takes no character from the front unless it takes all of them
  have hprefix : trimChars chars <+: chars.dropWhile isBlank := by
    rw [trimChars, trimEndChars, ← List.reverse_suffix, List.reverse_reverse]
    exact List.dropWhile_suffix isBlank
  obtain ⟨blanks, hblanks⟩ := hprefix
  have hhead : c ∈ (chars.dropWhile isBlank).head? := by
    rw [← hblanks, List.head?_append, Option.mem_def.mp hc]
    rfl
  exact isBlank_of_head?_dropWhile hhead

/-- Neither the first nor the last character of the text is blank. -/
def IsTrimmed (text : String) : Prop :=
  (∀ c ∈ text.toList.head?, isBlank c = false) ∧ ∀ c ∈ text.toList.getLast?, isBlank c = false

theorem isTrimmed_trim (text : String) : IsTrimmed (trim text) := by
  rw [IsTrimmed, trim, String.toList_ofList]
  exact ⟨fun _ => isBlank_of_head?_trimChars, fun _ => isBlank_of_getLast?_trimChars⟩

/-- Trimming leaves a trimmed text alone. -/
theorem trim_trim (text : String) : trim (trim text) = trim text :=
  trim_eq_self (isTrimmed_trim text).1 (isTrimmed_trim text).2

theorem trimChars_eq_nil_iff {chars : List Char} :
    trimChars chars = [] ↔ ∀ c ∈ chars, isBlank c = true := by
  have htwice : (chars.dropWhile isBlank).dropWhile isBlank = chars.dropWhile isBlank :=
    dropWhile_isBlank_of_head fun _ => isBlank_of_head?_dropWhile
  rw [trimChars, trimEndChars, List.reverse_eq_nil_iff, List.dropWhile_eq_nil_iff]
  simp only [List.mem_reverse]
  rw [← List.dropWhile_eq_nil_iff, htwice, List.dropWhile_eq_nil_iff]

/-- Nothing is left of a text exactly when it has blanks only. -/
theorem trim_eq_empty_iff {text : String} :
    trim text = "" ↔ ∀ c ∈ text.toList, isBlank c = true := by
  rw [← trimChars_eq_nil_iff, trim, String.ofList_eq_empty_iff]

/-! ## Joining -/

theorem joinWith_cons_cons (separator first second : String) (rest : List String) :
    joinWith separator (first :: second :: rest) =
      first ++ separator ++ joinWith separator (second :: rest) := rfl

/-- Every text after the first one is joined with a separator in front of it. -/
theorem toList_joinWith_cons (separator first : String) (rest : List String) :
    (joinWith separator (first :: rest)).toList =
      first.toList ++ rest.flatMap fun text => separator.toList ++ text.toList := by
  induction rest generalizing first with
  | nil => simp [joinWith]
  | cons second rest ih =>
      rw [joinWith_cons_cons, String.toList_append, String.toList_append, ih, List.flatMap_cons]
      simp only [List.append_assoc]

/-! ## Words -/

/-- A non-empty text without blanks. -/
def IsWord (chars : List Char) : Prop :=
  chars ≠ [] ∧ ∀ c ∈ chars, isBlank c = false

/-- The text is these words in order, with blanks between and perhaps around them. -/
inductive SpacedChars : List (List Char) → List Char → Prop where
  | nil {blanks : List Char} : (∀ c ∈ blanks, isBlank c = true) → SpacedChars [] blanks
  | cons {blanks word rest : List Char} {words : List (List Char)} :
      (∀ c ∈ blanks, isBlank c = true) → IsWord word →
      (∀ c ∈ rest.head?, isBlank c = true) → SpacedChars words rest →
      SpacedChars (word :: words) (blanks ++ word ++ rest)

/-- `SpacedChars` of texts. -/
def Spaced (words : List String) (text : String) : Prop :=
  SpacedChars (words.map String.toList) text.toList

theorem wordsOfChars_singleton (c : Char) :
    wordsOfChars [c] = if isBlank c then [] else [[c]] := by
  refine (wordsOfChars.eq_def _).trans ?_
  rfl

theorem wordsOfChars_cons_cons (c next : Char) (rest : List Char) :
    wordsOfChars (c :: next :: rest) =
      if isBlank c then wordsOfChars (next :: rest)
      else if isBlank next then [c] :: wordsOfChars (next :: rest)
      else
        match wordsOfChars (next :: rest) with
        | [] => [[c]]
        | word :: words => (c :: word) :: words := by
  refine (wordsOfChars.eq_def _).trans ?_
  rfl

theorem wordsOfChars_blank {c : Char} (rest : List Char) (hc : isBlank c = true) :
    wordsOfChars (c :: rest) = wordsOfChars rest := by
  cases rest with
  | nil =>
      rw [wordsOfChars_singleton, if_pos hc]
      rfl
  | cons next rest => rw [wordsOfChars_cons_cons, if_pos hc]

/-- A character before a blank, or at the end of the text, ends its word. -/
theorem wordsOfChars_last {c : Char} {rest : List Char} (hc : isBlank c = false)
    (hrest : ∀ d ∈ rest.head?, isBlank d = true) :
    wordsOfChars (c :: rest) = [c] :: wordsOfChars rest := by
  cases rest with
  | nil =>
      rw [wordsOfChars_singleton, hc]
      rfl
  | cons next rest =>
      have hnext : isBlank next = true := hrest next rfl
      simp [wordsOfChars_cons_cons, hc, hnext]

/-- A character before one of a word belongs to that word. -/
theorem wordsOfChars_more {c next : Char} {rest word : List Char} {words : List (List Char)}
    (hc : isBlank c = false) (hnext : isBlank next = false)
    (hrest : wordsOfChars (next :: rest) = word :: words) :
    wordsOfChars (c :: next :: rest) = (c :: word) :: words := by
  simp [wordsOfChars_cons_cons, hrest, hc, hnext]

/-- Blanks in front of a text add no words. -/
theorem wordsOfChars_blanks_append {blanks : List Char} (rest : List Char)
    (hblanks : ∀ c ∈ blanks, isBlank c = true) :
    wordsOfChars (blanks ++ rest) = wordsOfChars rest := by
  induction blanks with
  | nil => rfl
  | cons c blanks ih =>
      rw [List.cons_append, wordsOfChars_blank _ (hblanks c (List.mem_cons_self ..)),
        ih fun d hd => hblanks d (List.mem_cons_of_mem _ hd)]

/-- A word that ends before a blank, or with the text, is the first word. -/
theorem wordsOfChars_word_append {word rest : List Char} (hword : IsWord word)
    (hrest : ∀ c ∈ rest.head?, isBlank c = true) :
    wordsOfChars (word ++ rest) = word :: wordsOfChars rest := by
  obtain ⟨hne, hplain⟩ := hword
  induction word with
  | nil => exact absurd rfl hne
  | cons c word ih =>
      have hc : isBlank c = false := hplain c (List.mem_cons_self ..)
      cases word with
      | nil => exact wordsOfChars_last hc hrest
      | cons next word =>
          have hnext : isBlank next = false := hplain next (by simp)
          exact wordsOfChars_more hc hnext
            (ih (by simp) fun d hd => hplain d (List.mem_cons_of_mem _ hd))

theorem wordsOfChars_of_spaced {words : List (List Char)} {chars : List Char}
    (h : SpacedChars words chars) : wordsOfChars chars = words := by
  induction h with
  | @nil blanks hblanks =>
      rw [← List.append_nil blanks, wordsOfChars_blanks_append [] hblanks]
      rfl
  | cons hblanks hword hrest _ ih =>
      rw [List.append_assoc, wordsOfChars_blanks_append _ hblanks,
        wordsOfChars_word_append hword hrest, ih]

/-- A blank in front of a text changes only the spacing. -/
theorem SpacedChars.cons_blank {c : Char} {words : List (List Char)} {chars : List Char}
    (hc : isBlank c = true) (h : SpacedChars words chars) : SpacedChars words (c :: chars) := by
  cases h with
  | nil hblanks => exact .nil (List.forall_mem_cons.mpr ⟨hc, hblanks⟩)
  | cons hblanks hword hrest hwords =>
      exact .cons (List.forall_mem_cons.mpr ⟨hc, hblanks⟩) hword hrest hwords

/-- A word in front of a text, with nothing before it. -/
theorem SpacedChars.cons_word {word rest : List Char} {words : List (List Char)}
    (hword : IsWord word) (hrest : ∀ c ∈ rest.head?, isBlank c = true)
    (h : SpacedChars words rest) : SpacedChars (word :: words) (word ++ rest) := by
  have hblanks : ∀ c ∈ ([] : List Char), isBlank c = true := by simp
  exact .cons hblanks hword hrest h

/-- A text that begins with a character of a word begins with that word. -/
theorem SpacedChars.exists_word {next : Char} {words : List (List Char)} {rest : List Char}
    (hnext : isBlank next = false) (h : SpacedChars words (next :: rest)) :
    ∃ word after others, words = word :: others ∧ next :: rest = word ++ after ∧ IsWord word ∧
      (∀ c ∈ after.head?, isBlank c = true) ∧ SpacedChars others after := by
  generalize hchars : next :: rest = chars at h
  cases h with
  | nil hblanks =>
      have hblank := hblanks next (hchars ▸ List.mem_cons_self ..)
      rw [hnext] at hblank
      exact absurd hblank (by simp)
  | @cons blanks word after others hblanks hword hafter hothers =>
      cases blanks with
      | nil => exact ⟨word, after, others, rfl, rfl, hword, hafter, hothers⟩
      | cons blank blanks =>
          have hfirst : next = blank := (List.cons.inj hchars).1
          have hblank := hblanks blank (List.mem_cons_self ..)
          rw [← hfirst, hnext] at hblank
          exact absurd hblank (by simp)

/-- A text consists of its words. -/
theorem spaced_wordsOfChars (chars : List Char) : SpacedChars (wordsOfChars chars) chars := by
  induction chars with
  | nil => exact .nil (by simp)
  | cons c rest ih =>
      by_cases hc : isBlank c = true
      · rw [wordsOfChars_blank rest hc]
        exact ih.cons_blank hc
      have hplain : isBlank c = false := by simpa using hc
      by_cases hrest : ∀ d ∈ rest.head?, isBlank d = true
      · have hword : IsWord [c] := ⟨by simp, by simpa using hplain⟩
        rw [wordsOfChars_last hplain hrest]
        exact .cons_word hword hrest ih
      · -- `c` is put in front of the first word of the rest
        obtain ⟨next, hhead, hblank⟩ : ∃ d ∈ rest.head?, ¬ isBlank d = true := by
          simpa using hrest
        obtain ⟨more, rfl⟩ := List.head?_eq_some_iff.mp hhead
        have hnext : isBlank next = false := by simpa using hblank
        obtain ⟨word, after, others, hwords, hchars, hword, hafter, hothers⟩ :=
          ih.exists_word hnext
        have hlonger : IsWord (c :: word) :=
          ⟨by simp, List.forall_mem_cons.mpr ⟨hplain, hword.2⟩⟩
        rw [wordsOfChars_more hplain hnext hwords, hchars]
        exact .cons_word hlonger hafter hothers

theorem wordsOfChars_eq_iff {words : List (List Char)} {chars : List Char} :
    wordsOfChars chars = words ↔ SpacedChars words chars :=
  ⟨fun h => h ▸ spaced_wordsOfChars chars, wordsOfChars_of_spaced⟩

/-- Cutting a text into words finds exactly the words that it consists of. -/
theorem words_eq_iff {text : String} {found : List String} :
    words text = found ↔ Spaced found text := by
  rw [Spaced, ← wordsOfChars_eq_iff, words]
  constructor
  · rintro rfl
    simp [Function.comp_def]
  · intro h
    rw [h]
    simp [Function.comp_def]

/-- The words of a text are not empty and have no blanks. -/
theorem SpacedChars.isWord {words : List (List Char)} {chars : List Char}
    (h : SpacedChars words chars) : ∀ word ∈ words, IsWord word := by
  induction h with
  | nil => simp
  | cons _ hword _ _ ih => exact List.forall_mem_cons.mpr ⟨hword, ih⟩

theorem isWord_of_mem_words {text word : String} (hword : word ∈ words text) :
    IsWord word.toList :=
  (words_eq_iff.mp rfl : Spaced (words text) text).isWord _ (List.mem_map_of_mem hword)

/-- Words joined by single spaces are spaced. -/
theorem spaced_joinWith {found : List String} (h : ∀ word ∈ found, IsWord word.toList) :
    Spaced found (joinWith " " found) := by
  induction found with
  | nil => exact .nil (by simp [joinWith])
  | cons first rest ih =>
      obtain ⟨hfirst, hothers⟩ := List.forall_mem_cons.mp h
      cases rest with
      | nil =>
          have hlast : SpacedChars [] [] := .nil (by simp)
          simpa [Spaced, joinWith] using SpacedChars.cons_word hfirst (by simp) hlast
      | cons second rest =>
          have hspace : isBlank ' ' = true := by decide
          have hrest := SpacedChars.cons_blank hspace (ih hothers)
          have hjoined := SpacedChars.cons_word hfirst (by simp [hspace]) hrest
          simpa [Spaced, joinWith_cons_cons] using hjoined

/-- Words joined by single spaces are read back. -/
theorem words_joinWith {found : List String} (h : ∀ word ∈ found, IsWord word.toList) :
    words (joinWith " " found) = found :=
  words_eq_iff.mpr (spaced_joinWith h)

end RegistryClient.Text

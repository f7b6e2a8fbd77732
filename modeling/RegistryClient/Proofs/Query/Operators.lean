import RegistryClient.Proofs.Identifier
import RegistryClient.Proofs.Query.Compile

/-!
# Operators that share a leaf

A leaf names its operator by a word or a sign in front of the value, or by a word
in the place of it; a loose test alone has nothing but its value.  So two tests
of the same field with different operators are told apart by their texts unless
one of them is loose and its value `Spells` the other one (`Test.text_eq_iff`):
exact matches, bounds and questions for presence are never taken for each other.

The main statement is `same_leaf_iff`, for queries that are compiled to single
leaves.  A value that spells a bound or an exact match has a blank in it, so a
search for a word can spell nothing but the question for presence, and
`presence_of_word` has the word that does.
-/

namespace RegistryClient.Query

/-! ## The text of a test -/

/-- How a leaf uses its value. -/
inductive Operator where
  | loose
  | exact
  | atMost
  | atLeast
  | present
deriving DecidableEq

/-- The character with which the text of a test begins, where that depends on the operator only. -/
def Operator.initial? : Operator → Option Char
  | .loose => none
  | .exact => some 'I'
  | .atMost => some '<'
  | .atLeast => some '>'
  | .present => some 'E'

theorem Operator.initial?_injective {first second : Operator}
    (h : first.initial? = second.initial?) : first = second := by
  cases first <;> cases second <;> simp [initial?] at h <;> rfl

/-- The first test is loose, and its value is what the second one, which is not, is written as. -/
inductive Spells : Test → Test → Prop where
  | exact (value : String) : Spells (.loose ("IS " ++ quoted value)) (.exact value)
  | atMost (value : String) : Spells (.loose ("<= " ++ value)) (.atMost value)
  | atLeast (value : String) : Spells (.loose (">= " ++ value)) (.atLeast value)
  | present : Spells (.loose "EXISTS") .present

theorem Spells.text_eq {first second : Test} (h : Spells first second) :
    first.text = second.text := by
  cases h <;> rfl

namespace Test

def operator : Test → Operator
  | .loose _ => .loose
  | .exact _ => .exact
  | .atMost _ => .atMost
  | .atLeast _ => .atLeast
  | .present => .present

theorem head?_text {test : Test} (h : test.operator ≠ .loose) :
    test.text.toList.head? = test.operator.initial? := by
  cases test with
  | loose value => exact absurd rfl h
  | exact value => simp [text, operator, Operator.initial?]
  | atMost value => simp [text, operator, Operator.initial?]
  | atLeast value => simp [text, operator, Operator.initial?]
  | present => simp [text, operator, Operator.initial?]

/-- A loose test spells every other test with its text. -/
theorem spells_of_loose {first second : Test} (hloose : first.operator = .loose)
    (hoperator : first.operator ≠ second.operator) (htext : first.text = second.text) :
    Spells first second := by
  cases first with
  | loose value =>
      obtain rfl : value = second.text := htext
      cases second with
      | loose value => exact absurd rfl hoperator
      | exact value => exact .exact value
      | atMost value => exact .atMost value
      | atLeast value => exact .atLeast value
      | present => exact .present
  | _ => simp [operator] at hloose

/-- **Tests with different operators have the same text only when the value of a
loose one spells the other.** -/
theorem text_eq_iff {first second : Test} (hoperator : first.operator ≠ second.operator) :
    first.text = second.text ↔ Spells first second ∨ Spells second first := by
  constructor
  · intro htext
    by_cases hfirst : first.operator = .loose
    · exact Or.inl (spells_of_loose hfirst hoperator htext)
    by_cases hsecond : second.operator = .loose
    · exact Or.inr (spells_of_loose hsecond hoperator.symm htext.symm)
    -- neither is loose, so that their first characters tell them apart
    have hhead : first.operator.initial? = second.operator.initial? := by
      rw [← head?_text hfirst, ← head?_text hsecond, htext]
    exact absurd (Operator.initial?_injective hhead) hoperator
  · rintro (h | h)
    · exact h.text_eq
    · exact h.text_eq.symm

end Test

/-! ## Values that spell nothing -/

/-- Without a blank in it, a value spells the question for presence or nothing. -/
theorem spells_of_notMem {value : String} {test : Test} (hblank : ' ' ∉ value.toList)
    (h : Spells (.loose value) test) : value = "EXISTS" ∧ test = .present := by
  cases h with
  | exact value => simp at hblank
  | atMost value => simp at hblank
  | atLeast value => simp at hblank
  | present => exact ⟨rfl, rfl⟩

theorem notMem_of_isWord {word : List Char} (h : Text.IsWord word) : ' ' ∉ word := by
  intro hmem
  have hnot : Text.isBlank ' ' = false := h.2 ' ' hmem
  exact absurd hnot (by decide)

theorem not_spells_of_isValid {id : String} {test : Test} (hvalid : Identifier.isValid id = true) :
    ¬ Spells (.loose id) test := by
  intro h
  have hblank : ' ' ∉ id.toList := fun hmem =>
    absurd (Identifier.identifierPlace_of_mem hvalid hmem) (by decide)
  obtain ⟨rfl, -⟩ := spells_of_notMem hblank h
  exact absurd hvalid (by decide)

/-! ## Queries of one leaf -/

/-- The query is accepted, asks for one test of one field, and is written so. -/
structure IsLeafQuery (node : Node) (path : String) (test : Test) (written : String) : Prop where
  compiled : node.compile = .ok written
  expression_eq : node.expression = .leaf path test

theorem isLeafQuery_iff {node : Node} {path : String} {test : Test} {written : String} :
    IsLeafQuery node path test written ↔
      node.Valid ∧ node.expression = .leaf path test ∧ written = leaf path test := by
  constructor
  · rintro ⟨hcompiled, hexpression⟩
    obtain ⟨hvalid, rfl⟩ := compile_eq_ok_iff.mp hcompiled
    exact ⟨hvalid, hexpression, by rw [hexpression, Expression.text]⟩
  · rintro ⟨hvalid, hexpression, rfl⟩
    refine ⟨compile_eq_ok_iff.mpr ⟨hvalid, ?_⟩, hexpression⟩
    rw [hexpression, Expression.text]

theorem leaf_eq_leaf_iff {path : String} {first second : Test} :
    leaf path first = leaf path second ↔ first.text = second.text := by
  simp [leaf, String.ext_iff]

theorem Expression.mem_of_joined_eq_leaf {connective : Connective} {operands : List Expression}
    {path : String} {test : Test} (h : joined connective operands = leaf path test) :
    leaf path test ∈ operands := by
  cases operands with
  | nil => simp [joined] at h
  | cons first others =>
      cases others with
      | nil =>
          obtain rfl : first = leaf path test := h
          exact List.mem_singleton_self _
      | cons second others => simp [joined] at h

/-- A search for words that is a single leaf has a word for its value. -/
theorem exists_word_of_search {element : Element} {text path : String} {test : Test}
    (h : (Node.search element .words text).expression = .leaf path test) :
    ∃ word, Text.IsWord word.toList ∧ test = .loose word := by
  have hmem := Expression.mem_of_joined_eq_leaf h
  obtain ⟨_, -, hleaf⟩ := List.mem_flatMap.mp hmem
  obtain ⟨word, hword, heq⟩ := List.mem_map.mp hleaf
  injection heq with _ htest
  exact ⟨word, Text.isWord_of_mem_words hword, htest.symm⟩

theorem exists_id_of_named {ids : List String} {path : String} {test : Test}
    (hvalid : (Node.named .words ids).Valid)
    (h : (Node.named .words ids).expression = .leaf path test) :
    ∃ id, Identifier.isValid id = true ∧ test = .loose id := by
  have hmem := Expression.mem_of_joined_eq_leaf h
  obtain ⟨id, hid, heq⟩ := List.mem_map.mp hmem
  injection heq with _ htest
  cases hvalid with
  | named _ hids => exact ⟨id, hids id hid, htest.symm⟩

/-- **Two leaf queries for the same field with different operators are written the
same exactly when the loose value of one spells the test of the other; a search
for a word is so only when the word is that of the question for presence, and a
search for an identifier never.** -/
theorem same_leaf_iff {first second : Node} {path writtenFirst writtenSecond : String}
    {a b : Test} (hfirst : IsLeafQuery first path a writtenFirst)
    (hsecond : IsLeafQuery second path b writtenSecond) (hoperator : a.operator ≠ b.operator) :
    (writtenFirst = writtenSecond ↔ Spells a b ∨ Spells b a) ∧
      (∀ element text, first = .search element .words text →
        (writtenFirst = writtenSecond ↔ a = .loose "EXISTS" ∧ b = .present)) ∧
      ∀ ids, first = .named .words ids → writtenFirst ≠ writtenSecond := by
  obtain ⟨hvalid, hexpression, rfl⟩ := isLeafQuery_iff.mp hfirst
  obtain ⟨-, -, rfl⟩ := isLeafQuery_iff.mp hsecond
  have hsame : leaf path a = leaf path b ↔ Spells a b ∨ Spells b a := by
    rw [leaf_eq_leaf_iff, Test.text_eq_iff hoperator]
  -- of two tests that spell each other the spelling one is loose
  have hloose : ∀ value, a = .loose value → ¬ Spells b a := by
    rintro value rfl h
    cases h
  refine ⟨hsame, ?_, ?_⟩
  · rintro element text rfl
    obtain ⟨word, hword, rfl⟩ := exists_word_of_search hexpression
    rw [hsame, or_iff_left (hloose word rfl)]
    constructor
    · intro h
      obtain ⟨rfl, rfl⟩ := spells_of_notMem (notMem_of_isWord hword) h
      exact ⟨rfl, rfl⟩
    · rintro ⟨hvalue, rfl⟩
      rw [hvalue]
      exact .present
  · rintro ids rfl
    obtain ⟨id, hid, rfl⟩ := exists_id_of_named hvalid hexpression
    rw [Ne, hsame, or_iff_left (hloose id rfl)]
    exact not_spells_of_isValid hid

/-- A release date and a bound for release dates that are written the same. -/
theorem same_leaf_release :
    IsLeafQuery (.date .exactly "<= 2020") releaseDatePath (.loose "<= 2020")
        (leaf releaseDatePath (.loose "<= 2020")) ∧
      IsLeafQuery (.date .atMost " 2020 ") releaseDatePath (.atMost "2020")
        (leaf releaseDatePath (.atMost "2020")) ∧
      leaf releaseDatePath (.loose "<= 2020") = leaf releaseDatePath (.atMost "2020") := by
  have hvalue : Text.trim "<= 2020" = "<= 2020" := by decide
  have hbound : Text.trim " 2020 " = "2020" := by decide
  have hloose : IsLeafQuery (.date .exactly "<= 2020") releaseDatePath (.loose "<= 2020")
      (leaf releaseDatePath (.loose "<= 2020")) :=
    isLeafQuery_iff.mpr ⟨.date (by rw [hvalue]; decide), by rw [Node.expression, hvalue]; rfl, rfl⟩
  have hatMost : IsLeafQuery (.date .atMost " 2020 ") releaseDatePath (.atMost "2020")
      (leaf releaseDatePath (.atMost "2020")) :=
    isLeafQuery_iff.mpr ⟨.date (by rw [hbound]; decide), by rw [Node.expression, hbound]; rfl, rfl⟩
  have hsame := (same_leaf_iff hloose hatMost (by decide)).1
  exact ⟨hloose, hatMost, hsame.mpr (.inl (.atMost "2020"))⟩

/-- A search for the word of the question for presence is written as that question. -/
theorem presence_of_word :
    ∃ path written, IsLeafQuery (.search .name .words "EXISTS") path (.loose "EXISTS") written ∧
      IsLeafQuery (.hasField (.element .name)) path .present written := by
  have hpaths : Element.paths .name = [Branch.base.path "ResourceName"] := rfl
  have hwords : Text.words "EXISTS" = ["EXISTS"] := by decide
  refine ⟨Branch.base.path "ResourceName", _, isLeafQuery_iff.mpr ⟨.search ?_, ?_, rfl⟩,
    isLeafQuery_iff.mpr ⟨.hasField rfl, rfl, rfl⟩⟩
  · simp [hwords]
  · rw [Node.expression, hwords, hpaths]
    rfl

end RegistryClient.Query

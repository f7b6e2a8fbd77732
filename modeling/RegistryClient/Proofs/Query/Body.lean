import RegistryClient.Proofs.Identifier
import RegistryClient.Proofs.Text.Cut
import RegistryClient.Proofs.Text.Digit
import RegistryClient.Query.Request

/-!
# Reading request bodies

`readBody` reads the body of a query request: the tags literally, the expression
from CDATA sections that follow one another, each up to the first end mark after
its start.

The main statement is `body_faithful`: whatever the expression, the reader finds
again what the body was made from, so no two contents have the same body.  The
point is `splitSections`, which puts an end mark and a start mark into every end
mark of the text.  None of them forms an end mark with the characters around it,
since splitting does not change the first character of a text
(`head?_splitSections`): an end mark across a seam would be one of the text itself.
-/

namespace RegistryClient.Query

variable {α : Type}

/-! ## The reader -/

/-- The contents of the CDATA sections that a text begins with, together, and what
follows the last of these sections. -/
def readSections (chars : List Char) : Option (List Char × List Char) :=
  match _hopened : Text.after? sectionStart chars with
  | none => some ([], chars)
  | some opened =>
    match _hcut : Text.cutAt? sectionEnd opened with
    | none => none
    | some (content, rest) => (readSections rest).map fun (more, rest) => (content ++ more, rest)
termination_by chars.length
decreasing_by
  exact Nat.lt_of_le_of_lt (Text.length_le_of_cutAt? ‹_›) (Text.length_lt_of_after? ‹_›)

/-- An expression in CDATA sections. -/
def readExpression (chars : List Char) : Option (String × List Char) :=
  (readSections chars).map fun (text, rest) => (String.ofList text, rest)

/-- The text up to the next tag. -/
def readText (chars : List Char) : Option (String × List Char) :=
  some (String.ofList (chars.takeWhile (· ≠ '<')), chars.dropWhile (· ≠ '<'))

/-- The number that the next digits denote. -/
def readNumber (chars : List Char) : Option (Nat × List Char) :=
  (Text.numeral? 10 (chars.takeWhile Char.isDigit)).map fun number =>
    (number, chars.dropWhile Char.isDigit)

/-- An element with a name, whose content has a reader. -/
def readTagged (name : String) (readContent : List Char → Option (α × List Char))
    (chars : List Char) : Option (α × List Char) := do
  let rest ← Text.after? ("<" ++ name ++ ">").toList chars
  let (content, rest) ← readContent rest
  let rest ← Text.after? ("</" ++ name ++ ">").toList rest
  return (content, rest)

/-- The identifier of the record below which is searched, when there is one. -/
def readRoot (chars : List Char) : Option String × List Char :=
  match readTagged "ID" readText chars with
  | some (id, rest) => (some id, rest)
  | none => (none, chars)

/-- What a request body is made from. -/
structure BodyContent where
  expression : String
  pageNumber : Nat
  pageSize : Nat
  root : Option String
deriving DecidableEq

/-- The elements of a query. -/
def readQuery (chars : List Char) : Option (BodyContent × List Char) := do
  let (root, rest) := readRoot chars
  let (expression, rest) ← readTagged "Expression" readExpression rest
  let (pageNumber, rest) ← readTagged "PageNumber" readNumber rest
  let (pageSize, rest) ← readTagged "PageSize" readNumber rest
  return (⟨expression, pageNumber, pageSize, root⟩, rest)

/-- What begins a request body. -/
def bodyStart : List Char := "<Request xmlns=\"http://www.eidr.org/schema\">".toList

/-- What ends a request body. -/
def bodyEnd : List Char := "</Request>".toList

/-- What a text is made from that is a request body and nothing else. -/
def readBody (text : String) : Option BodyContent := do
  let rest ← Text.after? bodyStart text.toList
  let (content, rest) ← readTagged "Operation" (readTagged "Query" readQuery) rest
  let rest ← Text.after? bodyEnd rest
  if rest.isEmpty then some content else none

/-! ## Reading back an expression -/

/-- What is read behind the start of a section. -/
def readOpened (opened : List Char) : Option (List Char × List Char) := do
  let (content, rest) ← Text.cutAt? sectionEnd opened
  let (more, rest) ← readSections rest
  return (content ++ more, rest)

theorem readSections_of_none {chars : List Char} (h : Text.after? sectionStart chars = none) :
    readSections chars = some ([], chars) := by
  rw [readSections]
  split
  · rfl
  · next hopened => simp [h] at hopened

theorem readSections_append (opened : List Char) :
    readSections (sectionStart ++ opened) = readOpened opened := by
  rw [readSections, readOpened]
  -- the reader keeps equations for its termination, so the matches are split by hand
  split
  · next hnone => simp at hnone
  · next found hfound =>
    rw [Text.after?_append, Option.some.injEq] at hfound
    subst hfound
    split
    · next hcut => simp [hcut]
    · next content rest hcut =>
      cases hmore : readSections rest <;> simp [hcut, hmore]

/-- A character at which no end mark begins is part of the section. -/
theorem readOpened_cons {c : Char} {chars : List Char}
    (h : Text.after? sectionEnd (c :: chars) = none) :
    readOpened (c :: chars) = (readOpened chars).map fun (text, rest) => (c :: text, rest) := by
  rw [readOpened, readOpened, Text.cutAt?_cons h]
  cases Text.cutAt? sectionEnd chars with
  | none => rfl
  | some cut => cases hmore : readSections cut.2 <;> simp [hmore]

/-- At an end mark the section ends, and the next one may begin. -/
theorem readOpened_sectionEnd (rest : List Char) :
    readOpened (sectionEnd ++ rest) = readSections rest := by
  have hcut : Text.cutAt? sectionEnd (sectionEnd ++ rest) = some ([], rest) :=
    Text.cutAt?_append ']' [']', '>'] rest
  rw [readOpened, hcut]
  cases hmore : readSections rest <;> simp [hmore]

/-- Splitting leaves the first character of a text in place. -/
theorem head?_splitSections (text : List Char) : (splitSections text).head? = text.head? := by
  fun_cases splitSections text <;> rfl

/-! No part of an end mark begins a split text that does not begin the text. -/

theorem after?_bracket_splitSections {text : List Char} (rest : List Char)
    (h : ¬ ['>'] <+: text) :
    Text.after? ['>'] (splitSections text ++ (sectionEnd ++ rest)) = none := by
  cases text with
  | nil => rfl
  | cons c text =>
      have hc : '>' ≠ c := by
        rintro rfl
        exact h ⟨text, rfl⟩
      obtain ⟨others, hothers⟩ := List.head?_eq_some_iff.mp (head?_splitSections (c :: text))
      rw [hothers]
      exact Text.after?_cons_of_ne _ _ hc

theorem after?_brackets_splitSections {text : List Char} (rest : List Char)
    (h : ¬ [']', '>'] <+: text) :
    Text.after? [']', '>'] (splitSections text ++ (sectionEnd ++ rest)) = none := by
  fun_cases splitSections text with
  | case1 => rfl
  | case2 c text =>
      by_cases hc : ']' = c
      · subst hc
        have hrest : ¬ ['>'] <+: text := fun hprefix => h ((List.prefix_cons_inj ']').mpr hprefix)
        exact after?_bracket_splitSections rest hrest
      · exact Text.after?_cons_of_ne _ _ hc
  | case3 => rfl

theorem after?_sectionEnd_splitSections {c : Char} {text : List Char} (rest : List Char)
    (h : ¬ sectionEnd <+: c :: text) :
    Text.after? sectionEnd (c :: (splitSections text ++ (sectionEnd ++ rest))) = none := by
  by_cases hc : ']' = c
  · subst hc
    have hrest : ¬ [']', '>'] <+: text :=
      fun hprefix => h ((List.prefix_cons_inj ']').mpr hprefix)
    exact after?_brackets_splitSections rest hrest
  · exact Text.after?_cons_of_ne _ _ hc

/-- Splitting is undone behind the start of a section. -/
theorem readOpened_splitSections (text : List Char) {rest : List Char}
    (hrest : Text.after? sectionStart rest = none) :
    readOpened (splitSections text ++ (sectionEnd ++ rest)) = some (text, rest) := by
  induction text using splitSections.induct with
  | case1 text ih =>
      -- two characters, the mark, and behind the new start the third character
      have hfirst : ∀ chars, Text.after? sectionEnd (']' :: ']' :: (sectionEnd ++ chars)) = none :=
        fun _ => rfl
      have hsecond : ∀ chars, Text.after? sectionEnd (']' :: (sectionEnd ++ chars)) = none :=
        fun _ => rfl
      have hthird : ∀ chars, Text.after? sectionEnd ('>' :: chars) = none := fun _ => rfl
      simp only [splitSections, List.cons_append, List.append_assoc]
      rw [readOpened_cons (hfirst _), readOpened_cons (hsecond _), readOpened_sectionEnd,
        readSections_append, readOpened_cons (hthird _), ih]
      rfl
  | case2 c text hmark ih =>
      have hnone : ¬ sectionEnd <+: c :: text := by
        rintro ⟨more, hmore⟩
        obtain ⟨rfl, rfl⟩ := List.cons.inj hmore
        exact hmark more rfl rfl
      rw [splitSections, List.cons_append,
        readOpened_cons (after?_sectionEnd_splitSections rest hnone), ih]
      · rfl
      · exact hmark
  | case3 =>
      rw [splitSections, List.nil_append, readOpened_sectionEnd, readSections_of_none hrest]

/-! ## Reading back the elements -/

/-- The reader takes the text, up to the end tag after it, for the value. -/
def ReadsContent (read : List Char → Option (α × List Char)) (content : String) (value : α) : Prop :=
  ∀ rest, read (content.toList ++ '<' :: '/' :: rest) = some (value, '<' :: '/' :: rest)

theorem toList_tagged_append (name content : String) (rest : List Char) :
    (tagged name content).toList ++ rest = ("<" ++ name ++ ">").toList ++
      (content.toList ++ (("</" ++ name ++ ">").toList ++ rest)) := by
  simp [tagged]

theorem readTagged_tagged {name content : String} {value : α}
    {readContent : List Char → Option (α × List Char)} (rest : List Char)
    (h : ReadsContent readContent content value) :
    readTagged name readContent ((tagged name content).toList ++ rest) = some (value, rest) := by
  have hend : ("</" ++ name ++ ">").toList ++ rest = '<' :: '/' :: (name.toList ++ '>' :: rest) := by
    simp
  have hclose : Text.after? ("</" ++ name ++ ">").toList
      ('<' :: '/' :: (name.toList ++ '>' :: rest)) = some rest := by
    rw [← hend, Text.after?_append]
  rw [toList_tagged_append, readTagged, Text.after?_append, hend]
  simp only [Option.bind_eq_bind, Option.bind_some, h _, hclose]
  rfl

theorem readsContent_tagged {name content : String} {value : α}
    {readContent : List Char → Option (α × List Char)} (h : ReadsContent readContent content value) :
    ReadsContent (readTagged name readContent) (tagged name content) value :=
  fun _ => readTagged_tagged _ h

theorem readsContent_cdata (expression : String) :
    ReadsContent readExpression (cdata expression) expression := by
  intro rest
  have hrest : Text.after? sectionStart ('<' :: '/' :: rest) = none := rfl
  rw [readExpression, cdata, String.toList_ofList, List.append_assoc, List.append_assoc,
    readSections_append, readOpened_splitSections _ hrest, Option.map_some]
  simp only [String.ofList_toList]

theorem readsContent_repr (number : Nat) : ReadsContent readNumber number.repr number := by
  intro rest
  have hdigits : ∀ c ∈ Nat.toDigits 10 number, Char.isDigit c = true :=
    fun _ => Text.isDigit_of_mem_toDigits
  have hstop : Char.isDigit '<' = false := rfl
  rw [readNumber, Nat.toList_repr, List.takeWhile_append_of_pos hdigits,
    List.dropWhile_append_of_pos hdigits, List.takeWhile_cons_of_neg (by simp [hstop]),
    List.dropWhile_cons_of_neg (by simp [hstop]), List.append_nil, Text.numeral?_toDigits]
  rfl

theorem readsContent_text {text : String} (h : '<' ∉ text.toList) :
    ReadsContent readText text text := by
  intro rest
  have hchars : ∀ c ∈ text.toList, decide (c ≠ '<') = true := by
    intro c hc
    exact decide_eq_true fun heq => h (heq ▸ hc)
  rw [readText, List.takeWhile_append_of_pos hchars, List.dropWhile_append_of_pos hchars,
    List.takeWhile_cons_of_neg (by simp), List.dropWhile_cons_of_neg (by simp), List.append_nil,
    String.ofList_toList]

/-! ## Reading back a body -/

/-- The part of a body that names the record below which is searched. -/
def rootElement : Option String → String
  | none => ""
  | some id => tagged "ID" id

theorem readRoot_rootElement {root : Option String}
    (hroot : ∀ id ∈ root, Identifier.isValid id = true) (content : String) (rest : List Char) :
    readRoot ((rootElement root).toList ++ ((tagged "Expression" content).toList ++ rest)) =
      (root, (tagged "Expression" content).toList ++ rest) := by
  cases root with
  | none =>
      have hnone : readTagged "ID" readText ((tagged "Expression" content).toList ++ rest) = none := by
        rw [toList_tagged_append]
        rfl
      have hempty : (rootElement none).toList = [] := rfl
      rw [hempty, List.nil_append, readRoot, hnone]
  | some id =>
      have hid : '<' ∉ id.toList := Identifier.notMem_of_isValid (hroot id rfl) (by decide)
      rw [readRoot, rootElement, readTagged_tagged _ (readsContent_text hid)]

theorem readsContent_query (expression : String) (pageNumber pageSize : Nat) {root : Option String}
    (hroot : ∀ id ∈ root, Identifier.isValid id = true) :
    ReadsContent readQuery
      (rootElement root ++ tagged "Expression" (cdata expression) ++
        tagged "PageNumber" pageNumber.repr ++ tagged "PageSize" pageSize.repr)
      ⟨expression, pageNumber, pageSize, root⟩ := by
  intro rest
  simp only [String.toList_append, List.append_assoc]
  rw [readQuery, readRoot_rootElement hroot]
  simp only [readTagged_tagged _ (readsContent_cdata expression),
    readTagged_tagged _ (readsContent_repr _), Option.bind_eq_bind, Option.bind_some]
  rfl

/-- A request body is read as what it was made from. -/
theorem readBody_body (expression : String) (pageNumber pageSize : Nat) {root : Option String}
    (hroot : ∀ id ∈ root, Identifier.isValid id = true) :
    readBody (body expression pageNumber pageSize root) =
      some ⟨expression, pageNumber, pageSize, root⟩ := by
  have hquery := readsContent_query expression pageNumber pageSize hroot
  have hbody : (body expression pageNumber pageSize root).toList =
      bodyStart ++ ((tagged "Operation" (tagged "Query"
        (rootElement root ++ tagged "Expression" (cdata expression) ++
          tagged "PageNumber" pageNumber.repr ++ tagged "PageSize" pageSize.repr))).toList ++
        bodyEnd) := by
    rw [← List.append_assoc]
    exact (String.toList_append ..).trans (congrArg (· ++ bodyEnd) (String.toList_append ..))
  have hend : Text.after? bodyEnd bodyEnd = some [] :=
    Text.after?_eq_some_iff.mpr (List.append_nil _).symm
  rw [readBody, hbody, Text.after?_append]
  simp only [Option.bind_eq_bind, Option.bind_some,
    readTagged_tagged _ (readsContent_tagged hquery), hend]
  rfl

/-- **A request body is read as what it was made from, whatever the expression,
and no other content has the same body.** -/
theorem body_faithful (expression : String) (pageNumber pageSize : Nat) {root : Option String}
    (hroot : ∀ id ∈ root, Identifier.isValid id = true) :
    readBody (body expression pageNumber pageSize root) =
        some ⟨expression, pageNumber, pageSize, root⟩ ∧
      ∀ other : BodyContent, (∀ id ∈ other.root, Identifier.isValid id = true) →
        body other.expression other.pageNumber other.pageSize other.root =
          body expression pageNumber pageSize root →
        other = ⟨expression, pageNumber, pageSize, root⟩ := by
  have hread := readBody_body expression pageNumber pageSize hroot
  refine ⟨hread, fun other hother hsame => ?_⟩
  have hreadOther := readBody_body other.expression other.pageNumber other.pageSize hother
  rw [hsame, hread] at hreadOther
  exact (Option.some.inj hreadOther).symm

/-- An expression in which end marks overlap and a start mark stands, with a
bracket before the end. -/
theorem body_faithful_overlapping :
    readBody (body "]]>]]]>]<![CDATA[]]" 4294967295 25 (some "10.5237/0000-0001")) =
        some ⟨"]]>]]]>]<![CDATA[]]", 4294967295, 25, some "10.5237/0000-0001"⟩ ∧
      body "]]>" 1 25 none ≠ body "]]" 1 25 none := by
  refine ⟨(body_faithful _ _ _ ?_).1, fun hsame => ?_⟩
  · intro id hid
    rw [← Option.some.inj hid]
    decide
  · have hnone : ∀ id ∈ (none : Option String), Identifier.isValid id = true := by simp
    have hother := (body_faithful "]]" 1 25 hnone).2 ⟨"]]>", 1, 25, none⟩ hnone hsame
    simp at hother

end RegistryClient.Query

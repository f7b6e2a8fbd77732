/-!
# Terms of the query language

A query expression is a parenthesized term.  A leaf tests one field of a record,
addressed by its absolute path; larger terms join others by `AND` or `OR` or
negate one by `NOT`.  This module has the vocabulary and the text of a leaf.

Only the value of an exact test is quoted.  Inside the quotes a quotation mark
and a reverse solidus each have a reverse solidus before them, so that the first
quotation mark without one ends the value.
-/

namespace RegistryClient.Query

/-- The two parts of a record that field paths lead into. -/
inductive Branch where
  /-- What every record has. -/
  | base
  /-- What depends on the type of the record. -/
  | extra
deriving DecidableEq, Repr

namespace Branch

def name : Branch → String
  | .base => "BaseObjectData"
  | .extra => "ExtraObjectMetadata"

/-- The absolute path of a field of this part. -/
def path (branch : Branch) (relative : String) : String :=
  "/FullMetadata/" ++ branch.name ++ "/" ++ relative

end Branch

/-- How terms are joined. -/
inductive Connective where
  | and
  | or
deriving DecidableEq, Repr

/-- The word for a connective in an expression. -/
def Connective.word : Connective → String
  | .and => "AND"
  | .or => "OR"

/-- What a leaf asks of its field. -/
inductive Test where
  | loose (value : String)
  | exact (value : String)
  | atMost (value : String)
  | atLeast (value : String)
  | present
deriving DecidableEq, Repr

/-- The characters of a value inside quotation marks. -/
def escapeQuoted : List Char → List Char
  | [] => []
  | c :: rest =>
    if c = '"' ∨ c = '\\' then '\\' :: c :: escapeQuoted rest else c :: escapeQuoted rest

/-- A value in quotation marks. -/
def quoted (value : String) : String :=
  "\"" ++ String.ofList (escapeQuoted value.toList) ++ "\""

/-- The part of a leaf after the path. -/
def Test.text : Test → String
  | .loose value => value
  | .exact value => "IS " ++ quoted value
  | .atMost value => "<= " ++ value
  | .atLeast value => ">= " ++ value
  | .present => "EXISTS"

/-- The term that applies a test to the field at a path. -/
def leaf (path : String) (test : Test) : String :=
  "(" ++ path ++ " " ++ test.text ++ ")"

end RegistryClient.Query

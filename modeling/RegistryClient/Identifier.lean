/-!
# Identifiers

The registry names its records by DOIs of a fixed form: a content record by
`10.5240/` with five groups of four upper-case hexadecimal digits and a check
character, a party or a service by `10.5237/` or `10.5239/` with two such
groups.  The check character is not verified.

A form is a list of character classes, one for each character of the identifier.
-/

namespace RegistryClient.Identifier

/-- A class of characters that may stand at one place of an identifier. -/
abbrev Place := Char → Bool

/-- An upper-case hexadecimal digit. -/
def hexPlace : Place := fun c => ('0' ≤ c && c ≤ '9') || ('A' ≤ c && c ≤ 'F')

/-- A check character: a digit or an upper-case letter. -/
def checkPlace : Place := fun c => ('0' ≤ c && c ≤ '9') || ('A' ≤ c && c ≤ 'Z')

/-- The places of a fixed text. -/
def fixedPlaces (text : List Char) : List Place :=
  text.map fun expected c => c == expected

/-- Four hexadecimal digits and a hyphen. -/
def groupPlaces : List Place :=
  List.replicate 4 hexPlace ++ fixedPlaces ['-']

/-- The form of a content identifier. -/
def contentForm : List Place :=
  fixedPlaces ['1', '0', '.', '5', '2', '4', '0', '/'] ++
    (List.replicate 5 groupPlaces).flatten ++ [checkPlace]

/-- The form of a party or service identifier. -/
def otherForm : List Place :=
  fixedPlaces ['1', '0', '.', '5', '2', '3'] ++ [fun c => c == '7' || c == '9'] ++
    fixedPlaces ['/'] ++ groupPlaces ++ List.replicate 4 hexPlace

/-- Each character is of the class at its place, and there are as many characters as places. -/
def fits : List Place → List Char → Bool
  | [], [] => true
  | place :: places, c :: chars => place c && fits places chars
  | _, _ => false

/-- An identifier of a content record. -/
def isContent (id : String) : Bool :=
  fits contentForm id.toList

/-- An identifier of a party or of a service. -/
def isOther (id : String) : Bool :=
  fits otherForm id.toList

/-- An identifier of any record. -/
def isValid (id : String) : Bool :=
  isContent id || isOther id

/-- The part of an identifier before its first slash, which says what kind of
record it names; without a slash, all of it. -/
def authority (id : String) : String :=
  String.ofList (id.toList.takeWhile (· ≠ '/'))

end RegistryClient.Identifier

/-!
# Help pages

A help page says what a command is for, how it is called, and what may be given
to it: a row with a label and a meaning for every command, word and option.

The meanings of a section stand in a column beside the labels.  Where the labels
take more than two fifths of a line and some meaning does not fit in the rest,
each meaning of the section stands on the line below its label.
-/

namespace RegistryClient.CommandLine

/-- What a help page adds to the meaning of an option. -/
inductive HelpNote where
  /-- The environment variable that stands in for the option.  The value of a
  secret one is not shown. -/
  | standIn (name : String) (isSecret : Bool)
  /-- The value of an option that is not given. -/
  | fallback (value : String)
deriving DecidableEq, Repr

/-- One thing that may be given. -/
structure HelpRow where
  label : String
  meaning : String
  notes : List HelpNote
deriving DecidableEq, Repr

/-- Things of one kind that may be given. -/
structure HelpSection where
  title : String
  rows : List HelpRow
deriving DecidableEq, Repr

/-- What there is to say of a command. -/
structure HelpPage where
  purpose : String
  usage : String
  sections : List HelpSection
deriving DecidableEq, Repr

/-! ## Rows -/

/-- The text of a note, with the value that the environment variable has now. -/
def HelpNote.text (environment? : String → Option String) : HelpNote → String
  | .standIn name true => "[env: " ++ name ++ "]"
  | .standIn name false => "[env: " ++ name ++ "=" ++ (environment? name).getD "" ++ "]"
  | .fallback value => "[default: " ++ value ++ "]"

/-- The meaning of a row and its notes. -/
def HelpRow.text (environment? : String → Option String) (row : HelpRow) : String :=
  let parts := row.meaning :: row.notes.map (HelpNote.text environment?)
  " ".intercalate (parts.filter (· ≠ ""))

/-- As many blanks. -/
def blanks (count : Nat) : List Char := List.replicate count ' '

/-- The text with its later lines moved to the right. -/
def hanging (margin : Nat) (text : String) : List Char :=
  text.toList.flatMap fun c => if c = '\n' then '\n' :: blanks margin else [c]

/-- How far a meaning on a line of its own is moved to the right. -/
def meaningMargin : Nat := 10

/-- The row with its meaning in a column, behind labels of a width. -/
def HelpRow.beside (environment? : String → Option String) (width : Nat) (row : HelpRow) :
    List Char :=
  blanks 2 ++ row.label.toList ++ blanks (width - row.label.length + 2) ++
    hanging (width + 4) (row.text environment?)

/-- The row with its meaning on the next line. -/
def HelpRow.below (environment? : String → Option String) (row : HelpRow) : List Char :=
  blanks 2 ++ row.label.toList ++ '\n' :: blanks meaningMargin ++
    hanging meaningMargin (row.text environment?)

/-! ## Sections and pages -/

/-- The width of a line. -/
def helpWidth : Nat := 100

namespace HelpSection

/-- The width of the longest label. -/
def labelWidth (part : HelpSection) : Nat :=
  (part.rows.map fun row => row.label.length).foldl max 0

/-- The meanings have no room beside the labels. -/
def isCrowded (environment? : String → Option String) (part : HelpSection) : Bool :=
  let taken := part.labelWidth + 4
  decide (2 * helpWidth < 5 * taken) &&
    part.rows.any fun row => helpWidth < taken + (row.text environment?).length

/-- The text of a section. -/
def render (environment? : String → Option String) (part : HelpSection) : List Char :=
  let row :=
    if part.isCrowded environment? then HelpRow.below environment?
    else HelpRow.beside environment? part.labelWidth
  part.title.toList ++ ':' :: part.rows.flatMap fun entry => '\n' :: row entry

end HelpSection

/-- The text of a page. -/
def HelpPage.render (environment? : String → Option String) (page : HelpPage) : String :=
  let sections := page.sections.flatMap fun part => ['\n', '\n'] ++ part.render environment?
  page.purpose ++ "\n\nUsage: " ++ page.usage ++ String.ofList sections ++ "\n"

end RegistryClient.CommandLine

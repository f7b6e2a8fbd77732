import RegistryClient.CommandLine.Help

/-!
# Grammars of command lines

What may be given to a command: options, words and commands of its own.  A
grammar says how arguments are read and what a help page shows.
-/

namespace RegistryClient.CommandLine

/-- What an option does. -/
inductive OptionKind where
  /-- It has a value, which must satisfy a condition. -/
  | value (isValid : String → Bool)
  | flag
  | help
  | version

/-- An environment variable. -/
structure EnvironmentVariable where
  name : String
  /-- Its value is not to be shown. -/
  isSecret : Bool

/-- An option that a command has. -/
structure OptionForm where
  name : String
  letter : Option Char
  kind : OptionKind
  meaning : String
  /-- The environment variable whose value stands in for the option. -/
  standIn : Option EnvironmentVariable := none
  /-- The value of an option that is not given. -/
  fallback : Option String := none

/-- How often a word may be given. -/
inductive WordCount where
  | once
  | atMostOnce
  | anyNumber

/-- A word that a command has. -/
structure WordForm where
  name : String
  count : WordCount
  meaning : String

/-- What may be given to a command. -/
structure Grammar where
  /-- How the command is called. -/
  call : String
  purpose : String
  options : List OptionForm
  words : List WordForm
  /-- The commands that the command has, with what they are for.  The first word is
  the name of one, and all that follows belongs to it. -/
  commands : List (String × String) := []

/-- Why arguments do not make a command. -/
inductive Interruption where
  | misuse
  | help (page : HelpPage)
  | version
deriving DecidableEq, Repr

/-! ## What helps with a command -/

namespace OptionForm

/-- The value may be given to the option. -/
def accepts (form : OptionForm) (value : String) : Bool :=
  match form.kind with
  | .value isValid => isValid value
  | _ => true

/-- What stands for the value of an option: its name in capital letters. -/
def placeholder (form : OptionForm) : String :=
  form.name.map fun c => if c = '-' then '_' else c.toUpper

/-- How the option is given. -/
def label (form : OptionForm) : String :=
  let letter := match form.letter with
    | some letter => String.ofList ['-', letter, ',', ' ']
    | none => "    "
  let value := match form.kind with
    | .value _ => " <" ++ form.placeholder ++ ">"
    | _ => ""
  letter ++ "--" ++ form.name ++ value

/-- The row of an option. -/
def helpRow (form : OptionForm) : HelpRow :=
  let standIn := form.standIn.toList.map fun origin => HelpNote.standIn origin.name origin.isSecret
  ⟨form.label, form.meaning, standIn ++ form.fallback.toList.map .fallback⟩

/-- The option is about what the command does, and not about the program. -/
def isProper (form : OptionForm) : Bool :=
  match form.kind with
  | .help | .version => false
  | _ => true

end OptionForm

/-- How the word is given. -/
def WordForm.label (form : WordForm) : String :=
  match form.count with
  | .once => "<" ++ form.name ++ ">"
  | .atMostOnce => "[" ++ form.name ++ "]"
  | .anyNumber => "[" ++ form.name ++ "]..."

namespace Grammar

/-- The first word is the name of a command. -/
def endsAtCommand (grammar : Grammar) : Bool :=
  !grammar.commands.isEmpty

/-- The option with a name. -/
def named? (grammar : Grammar) (name : String) : Option OptionForm :=
  grammar.options.find? fun form => form.name == name

/-- The option with a letter. -/
def lettered? (grammar : Grammar) (letter : Char) : Option OptionForm :=
  grammar.options.find? fun form => form.letter == some letter

/-- How the command is called with all that may be given to it. -/
def usage (grammar : Grammar) : String :=
  let options := if grammar.options.any OptionForm.isProper then ["[OPTIONS]"] else []
  let command := if grammar.commands.isEmpty then [] else ["<COMMAND>"]
  " ".intercalate (grammar.call :: options ++ grammar.words.map WordForm.label ++ command)

/-- What there is to say of the command. -/
def helpPage (grammar : Grammar) : HelpPage :=
  let commands := grammar.commands.map fun (name, purpose) => HelpRow.mk name purpose []
  let words := grammar.words.map fun form => HelpRow.mk form.label form.meaning []
  let sections : List HelpSection :=
    [⟨"Commands", commands⟩, ⟨"Arguments", words⟩,
      ⟨"Options", grammar.options.map OptionForm.helpRow⟩]
  ⟨grammar.purpose, grammar.usage, sections.filter fun part => !part.rows.isEmpty⟩

end Grammar

end RegistryClient.CommandLine

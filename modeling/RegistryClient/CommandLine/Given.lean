import RegistryClient.CommandLine.Grammar

/-!
# What is given to a command

Reading the arguments of a command against the options that it has.  An option
is given by its name after two hyphens or by its letter after one.  A value
follows as the next argument or, after a name, behind an equals sign, or, after
a letter, in the same argument with or without one.  Letters of options without
value may be written together.  After `--` every argument is a word.

An option may be given once.  An argument that starts with a hyphen is never
taken for the value of the option before it, a single hyphen apart.

A value that is an argument of its own is looked at when the next option or word
of the same command is read, or after all of them; any other one at once.
-/

namespace RegistryClient.CommandLine

/-- The arguments read so far. -/
structure Given where
  /-- The names of options with their values, a flag with an empty one. -/
  values : List (String × String)
  words : List String
  /-- What follows the name of a command. -/
  rest : List String
  /-- The last option, if its value has not been looked at. -/
  pending : Option (OptionForm × String)

namespace Given

def nothing : Given := ⟨[], [], [], none⟩

/-- The value of an option, if it was given. -/
def value? (given : Given) (name : String) : Option String :=
  (given.values.find? fun entry => entry.1 == name).map Prod.snd

/-- An option was given. -/
def has (given : Given) (name : String) : Bool :=
  (given.value? name).isSome

/-- An option more, which must be new and have a valid value. -/
def addOption (given : Given) (form : OptionForm) (value : String) : Except Interruption Given :=
  if given.has form.name || !form.accepts value then .error .misuse
  else .ok { given with values := given.values ++ [(form.name, value)] }

/-- The arguments with the last value looked at. -/
def settle (given : Given) : Except Interruption Given :=
  match given.pending with
  | none => .ok given
  | some (form, value) => { given with pending := none }.addOption form value

/-- A word more, of which there may not be too many. -/
def addWord (given : Given) (grammar : Grammar) (word : String) : Except Interruption Given :=
  if given.words.length < grammar.words.length then
    .ok { given with words := given.words ++ [word] }
  else .error .misuse

end Given

namespace Grammar

/-- The options of letters written together, and the one whose value is to follow. -/
def readLetters (grammar : Grammar) (given : Given) :
    List Char → Except Interruption (Given × Option OptionForm)
  | [] => .ok (given, none)
  | letter :: rest =>
    match grammar.lettered? letter with
    | none => .error .misuse
    | some form =>
      match form.kind with
      | .help => .error (.help grammar.helpPage)
      | .version => .error .version
      | .flag => do
        let more ← given.addOption form ""
        grammar.readLetters more rest
      | .value _ =>
        match rest with
        | [] => .ok (given, some form)
        | '=' :: value => do
          let more ← given.addOption form (String.ofList value)
          return (more, none)
        | value => do
          let more ← given.addOption form (String.ofList value)
          return (more, none)

/-- The option of an argument after its two hyphens, and the one whose value is
to follow. -/
def readName (grammar : Grammar) (given : Given) (text : List Char) :
    Except Interruption (Given × Option OptionForm) :=
  let name := String.ofList (text.takeWhile (· ≠ '='))
  let attached := (text.dropWhile (· ≠ '=')).tail?.map String.ofList
  match grammar.named? name with
  | none => .error .misuse
  | some form =>
    match form.kind, attached with
    | .value _, some value => (given.addOption form value).map fun more => (more, none)
    | .value _, none => .ok (given, some form)
    | _, some _ => .error .misuse
    | .flag, none => (given.addOption form "").map fun more => (more, none)
    | .help, none => .error (.help grammar.helpPage)
    | .version, none => .error .version

/-- The argument is written as an option. -/
def looksLikeOption (argument : String) : Bool :=
  match argument.toList with
  | '-' :: _ :: _ => true
  | _ => false

/-- The arguments of a command.  `awaiting` is the option whose value comes
next, and `wordsOnly` says that `--` has been read. -/
def readFrom (grammar : Grammar) (given : Given) (awaiting : Option OptionForm)
    (wordsOnly : Bool) : List String → Except Interruption Given
  | [] => if awaiting.isSome then .error .misuse else .ok given
  | argument :: rest =>
    if wordsOnly then
      if grammar.endsAtCommand then .error .misuse
      else do
        let more ← (← given.settle).addWord grammar argument
        grammar.readFrom more none true rest
    else
      match awaiting with
      | some form =>
        if looksLikeOption argument then .error .misuse
        else grammar.readFrom { given with pending := some (form, argument) } none false rest
      | none =>
        match argument.toList with
        | ['-', '-'] => grammar.readFrom given none true rest
        | '-' :: '-' :: text => do
          let (more, next) ← grammar.readName (← given.settle) text
          grammar.readFrom more next false rest
        | '-' :: letter :: letters => do
          let (more, next) ← grammar.readLetters (← given.settle) (letter :: letters)
          grammar.readFrom more next false rest
        | _ =>
          if grammar.endsAtCommand then .ok { given with words := [argument], rest := rest }
          else do
            let more ← (← given.settle).addWord grammar argument
            grammar.readFrom more none false rest

/-- The arguments of a command, all but the last value looked at. -/
def readOpen (grammar : Grammar) (arguments : List String) : Except Interruption Given :=
  grammar.readFrom .nothing none false arguments

/-- The arguments of a command. -/
def read (grammar : Grammar) (arguments : List String) : Except Interruption Given := do
  (← grammar.readOpen arguments).settle

end Grammar

end RegistryClient.CommandLine

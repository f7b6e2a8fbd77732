import RegistryClient.CommandLine.Commands
import RegistryClient.CommandLine.Given
import RegistryClient.Config
import RegistryClient.Query.Request
import RegistryClient.Resolution.View

/-!
# Invocations

What the program is asked to do: one of four commands, with settings that hold
for all of them.  A setting that is not among the arguments is taken from its
environment variable.
-/

namespace RegistryClient.CommandLine

/-- Where a query document is. -/
inductive DocumentSource where
  | argument (text : String)
  | standardInput
deriving DecidableEq, Repr

/-- A single hyphen is the standard input. -/
def DocumentSource.ofArgument (argument : String) : DocumentSource :=
  if argument = "-" then .standardInput else .argument argument

/-- What is to be queried for. -/
inductive QuerySource where
  | expression (text : String)
  | document (source : DocumentSource)
deriving DecidableEq, Repr

/-- What the program is asked to do. -/
inductive Command where
  | validate (id : String)
  | compile (document : DocumentSource)
  | resolve (id view : String)
  | query (source : QuerySource) (options : Query.Options)
deriving DecidableEq, Repr

/-- The settings that hold for every command. -/
structure Settings where
  configPath : Option String
  endpoint : Option String
  userId : Option String
  partyId : Option String
  passwordShadow : Option String
deriving DecidableEq, Repr

/-- A command with its settings. -/
structure Invocation where
  settings : Settings
  command : Command
deriving DecidableEq, Repr

/-! ## Commands -/

/-- The only word of a command. -/
def onlyWord (given : Given) : Except Interruption String :=
  match given.words with
  | [word] => .ok word
  | _ => .error .misuse

/-- A query is for an expression or for a document, and not for both. -/
def querySource (given : Given) : Except Interruption QuerySource :=
  match given.value? "expression", given.words with
  | some text, [] => .ok (.expression text)
  | none, [word] => .ok (.document (.ofArgument word))
  | _, _ => .error .misuse

/-- The options of a query. -/
def queryOptions (given : Given) : Query.Options where
  pageNumber := ((given.value? "page").bind pageNumber?).getD Query.Options.default.pageNumber
  pageSize := (given.value? "page-size").bind pageNumber?
  root := given.value? "root"
  idsOnly := given.has "ids-only"

/-- The command with a name and arguments. -/
def readCommand (name : String) (arguments : List String) : Except Interruption Command :=
  match name with
  | "validate" => do
    let given ← validateGrammar.read arguments
    return .validate (← onlyWord given)
  | "compile" => do
    let given ← compileGrammar.read arguments
    return .compile (.ofArgument (← onlyWord given))
  | "resolve" => do
    let given ← resolveGrammar.read arguments
    let id ← onlyWord given
    return .resolve id ((given.value? "view").getD Resolution.View.default.name)
  | "query" => do
    let given ← queryGrammar.read arguments
    return .query (← querySource given) (queryOptions given)
  | "help" =>
    match helpTopic? arguments with
    | some topic => .error (.help topic.helpPage)
    | none => .error .misuse
  | _ => .error .misuse

namespace Invocation

/-- The value of an option among the arguments, or else in the environment. -/
def readSetting (environment? : String → Option String) (given : Given) (name : String) :
    Except Interruption (Option String) :=
  match given.value? name, programGrammar.named? name with
  | none, some form =>
    match form.standIn.bind fun origin => environment? origin.name with
    | some value => if form.accepts value then .ok (some value) else .error .misuse
    | none => .ok none
  | value, _ => .ok value

/-- The settings among the arguments, or else in the environment. -/
def readSettings (environment? : String → Option String) (given : Given) :
    Except Interruption Settings := do
  let setting := readSetting environment? given
  return ⟨← setting "config", ← setting "endpoint", ← setting "user-id",
    ← setting "party-id", ← setting "password-shadow"⟩

/-- The environment variables of the settings. -/
def variableNames : List String :=
  settingForms.filterMap fun form => form.standIn.map EnvironmentVariable.name

/-- The invocation that arguments and environment variables make.  The command is read
before the last setting in front of it is looked at. -/
def parse (environment? : String → Option String) (arguments : List String) :
    Except Interruption Invocation := do
  let given ← programGrammar.readOpen arguments
  let name ← onlyWord given
  let command ← readCommand name given.rest
  let settings ← readSettings environment? (← given.settle)
  return ⟨settings, command⟩

end Invocation

end RegistryClient.CommandLine

import RegistryClient.Client
import RegistryClient.CommandLine.Invocation
import RegistryClient.Config.File
import RegistryClient.Http.Transport
import RegistryClient.Json.Reader
import RegistryClient.Text.Terminal

/-!
# Running invocations

What an invocation prints and how it ends, as a function of everything outside
the program that it may look at: the standard input, the configuration file and
what comes of a request.

A query document is read and checked before the configuration, and the
configuration before there is a request.
-/

namespace RegistryClient.CommandLine

/-- What the program may look at. -/
structure Surroundings where
  /-- The standard input; `none` when it is not text. -/
  standardInput : Option String
  /-- The content of a file, if it can be read. -/
  file? : String → Option ByteArray
  /-- What comes of a request to the registry at an address. -/
  outcome : String → Request → Http.Outcome

/-- Why a run fails. -/
inductive RunFault where
  | notAnIdentifier (id : String)
  | unreadableInput
  | notJson
  | configFile (path : String) (fault : ConfigFileFault)
  | config (fault : ConfigFault)
  | call (fault : Fault)
deriving DecidableEq, Repr

namespace RunFault

/-- The complaint that a failed run ends with. -/
def message : RunFault → String
  | .notAnIdentifier id => s!"{id}: not a valid EIDR identifier"
  | .unreadableInput => "failed to read query from stdin"
  | .notJson => "query is not valid JSON"
  | .configFile path (.invalid fault) =>
    "failed to load config from " ++ path ++ ": " ++ fault.message
  | .configFile path _ => "failed to load config from " ++ path
  | .config fault => fault.message
  | .call fault => fault.message

end RunFault

/-! ## Inputs -/

/-- The text of a query document. -/
def documentText (surroundings : Surroundings) : DocumentSource → Except RunFault String
  | .argument text => .ok text
  | .standardInput =>
    match surroundings.standardInput with
    | none => .error .unreadableInput
    | some text => .ok text

/-- The query tree of a document. -/
def readNode (surroundings : Surroundings) (source : DocumentSource) :
    Except RunFault Query.Node := do
  let text ← documentText surroundings source
  match Json.parse? text with
  | none => .error .notJson
  | some document => (Query.Node.ofJson document).mapError fun fault => .call fault.toFault

/-- What is to be queried for. -/
def readQuery (surroundings : Surroundings) : QuerySource → Except RunFault Query
  | .expression text => .ok (.expression text)
  | .document source => (readNode surroundings source).map .structured

/-- A configuration with the settings in the place of its own values. -/
def Settings.overriding (settings : Settings) (config : Config) : Config where
  endpoint := settings.endpoint.getD config.endpoint
  apiVersion := config.apiVersion
  timeoutSeconds := config.timeoutSeconds
  pageSize := config.pageSize
  credentials := {
    userId := settings.userId.or config.credentials.userId
    partyId := settings.partyId.or config.credentials.partyId
    passwordShadow := settings.passwordShadow.or config.credentials.passwordShadow }

/-- The configuration of the file, or the default one without a file. -/
def fileConfig (surroundings : Surroundings) (settings : Settings) : Except RunFault Config :=
  match settings.configPath with
  | none => .ok .default
  | some path => (Config.ofFile (surroundings.file? path)).mapError (.configFile path)

/-- The configuration that a run uses. -/
def loadConfig (surroundings : Surroundings) (settings : Settings) : Except RunFault Config := do
  let config ← fileConfig surroundings settings
  let merged := settings.overriding config
  match merged.validate with
  | .error fault => .error (.config fault)
  | .ok () => return merged

/-! ## Commands -/

/-- What a call returns when its requests are sent. -/
def carryOut {α : Type} (surroundings : Surroundings) (config : Config) (exchange : Exchange α) :
    Except RunFault α :=
  let address := config.baseUrl
  let transport (request : Request) : Except Fault Json :=
    (Http.send address request (surroundings.outcome address request)).document
  (exchange.play transport).2.mapError .call

/-- A page of query results as it is printed. -/
def pageDocument (page : Response.QueryPage) : Json :=
  .object [("totalMatches", .ofNat page.totalMatches), ("results", .array page.results)]

/-- What a command prints. -/
def output (surroundings : Surroundings) (invocation : Invocation) : Except RunFault String :=
  match invocation.command with
  | .validate id =>
    if Identifier.isValid id then .ok s!"{id}: valid" else .error (.notAnIdentifier id)
  | .compile source => do
    let node ← readNode surroundings source
    node.compile.mapError fun fault => .call fault.toFault
  | .resolve id view => do
    let config ← loadConfig surroundings invocation.settings
    let record ← carryOut surroundings config (Client.resolve config id view)
    return record.pretty
  | .query source options => do
    let query ← readQuery surroundings source
    let config ← loadConfig surroundings invocation.settings
    let page ← carryOut surroundings config (Client.query config query options)
    return (pageDocument page).pretty

/-! ## Runs -/

/-- How a run ends. -/
structure Ending where
  /-- Zero for success, one for a failed command, two for a misused command line. -/
  code : Nat
  /-- What is printed. -/
  printed : String
  /-- The complaint of a failed command, as it is shown. -/
  complaint : Option String
deriving DecidableEq, Repr

/-- The name and version of the program. -/
def versionText : String := "eidr 0.1.0"

/-- How a run ends that has no command. -/
def Interruption.ending (environment? : String → Option String) : Interruption → Ending
  | .misuse => ⟨2, "", none⟩
  | .help page => ⟨0, page.render environment?, none⟩
  | .version => ⟨0, versionText ++ "\n", none⟩

/-- How a run with a command ends. -/
def Invocation.ending (surroundings : Surroundings) (invocation : Invocation) : Ending :=
  match output surroundings invocation with
  | .ok text => ⟨0, text ++ "\n", none⟩
  | .error fault => ⟨1, "", some (Text.terminalText fault.message)⟩

/-- How a run with these environment variables and arguments ends. -/
def run (surroundings : Surroundings) (environment? : String → Option String)
    (arguments : List String) : Ending :=
  match Invocation.parse environment? arguments with
  | .error interruption => interruption.ending environment?
  | .ok invocation => invocation.ending surroundings

end RegistryClient.CommandLine

import RegistryClient.CommandLine.Grammar
import RegistryClient.Query.Request
import RegistryClient.Resolution.View
import RegistryClient.Text.Digit

/-!
# The commands of the program

What may be given to the program and to each of its commands.
-/

namespace RegistryClient.CommandLine

/-! ## Values of options -/

/-- Any value will do. -/
def anyValue : OptionKind := .value fun _ => true

/-- The greatest page number and page size. -/
def greatestPage : Nat := Text.greatestOfBits 32

/-- The number of a page option's value: a decimal numeral, perhaps after a sign.  Of
the numbers after a minus sign only zero is no negative one. -/
def pageNumber? (text : String) : Option Nat :=
  let (digits, greatest) := match text.toList with
    | '+' :: digits => (digits, greatestPage)
    | '-' :: digits => (digits, 0)
    | digits => (digits, greatestPage)
  (Text.numeral? 10 digits).filter (· ≤ greatest)

/-- The value is the number of a page or a page size. -/
def pageValue : OptionKind := .value fun text => (pageNumber? text).isSome

/-! ## Grammars -/

/-- The option that every command has. -/
def helpOption : OptionForm where
  name := "help"
  letter := some 'h'
  kind := .help
  meaning := "Print help"

/-- What may be given to `validate`. -/
def validateGrammar : Grammar where
  call := "eidr validate"
  purpose := "Check whether an identifier is well-formed"
  options := [helpOption]
  words := [⟨"ID", .once, ""⟩]

/-- What may be given to `compile`. -/
def compileGrammar : Grammar where
  call := "eidr compile"
  purpose := "Compile a JSON query to a registry expression (use `-` to read stdin)"
  options := [helpOption]
  words := [⟨"QUERY", .once, ""⟩]

/-- The option of `resolve`. -/
def viewOption : OptionForm where
  name := "view"
  letter := some 'v'
  kind := anyValue
  meaning := "Resolution type: Full, SelfDefined, Simple, Provenance, DOIKernel, " ++
    "AlternateIDs or LinkedAlternateIDs"
  fallback := some Resolution.View.default.name

/-- What may be given to `resolve`. -/
def resolveGrammar : Grammar where
  call := "eidr resolve"
  purpose := "Resolve an identifier"
  options := [viewOption, helpOption]
  words := [⟨"ID", .once, ""⟩]

/-- The options of `query`. -/
def queryOptionForms : List OptionForm :=
  [⟨"expression", some 'e', anyValue, "Raw registry expression instead of a JSON query",
      none, none⟩,
    ⟨"page", some 'p', pageValue, "", none, some (toString Query.Options.default.pageNumber)⟩,
    ⟨"page-size", some 's', pageValue, "", none, none⟩,
    ⟨"root", some 'r', anyValue, "Only search descendants of this identifier", none, none⟩,
    ⟨"ids-only", some 'i', .flag, "Return identifiers only", none, none⟩,
    helpOption]

/-- What may be given to `query`. -/
def queryGrammar : Grammar where
  call := "eidr query"
  purpose := "Run a query (requires credentials)"
  options := queryOptionForms
  words := [⟨"QUERY", .atMostOnce, "JSON query (use `-` to read stdin)"⟩]

/-- What may be given to `help`. -/
def helpGrammar : Grammar where
  call := "eidr help"
  purpose := "Print this message or the help of the given subcommand(s)"
  options := []
  words := [⟨"COMMAND", .anyNumber, "Print help for the subcommand(s)"⟩]

/-- The commands with what may be given to them. -/
def commandGrammars : List (String × Grammar) :=
  [("validate", validateGrammar), ("compile", compileGrammar), ("resolve", resolveGrammar),
    ("query", queryGrammar), ("help", helpGrammar)]

/-- The options before the command. -/
def settingForms : List OptionForm :=
  [⟨"config", some 'c', .value (· ≠ ""), "YAML configuration file",
      some ⟨"EIDR_CONFIG", false⟩, none⟩,
    ⟨"endpoint", none, anyValue, "Registry endpoint (overrides the config file)",
      some ⟨"EIDR_ENDPOINT", false⟩, none⟩,
    ⟨"user-id", none, anyValue, "", some ⟨"EIDR_USER_ID", false⟩, none⟩,
    ⟨"party-id", none, anyValue, "", some ⟨"EIDR_PARTY_ID", false⟩, none⟩,
    ⟨"password-shadow", none, anyValue, "Base64-encoded MD5 digest of the account password",
      some ⟨"EIDR_PASSWORD_SHADOW", true⟩, none⟩]

/-- What may be given to the program. -/
def programGrammar : Grammar where
  call := "eidr"
  purpose := "Async client and CLI for resolving and querying EIDR registry records"
  options := settingForms ++
    [helpOption, ⟨"version", some 'V', .version, "Print version", none, none⟩]
  words := []
  commands := commandGrammars.map fun (name, grammar) => (name, grammar.purpose)

/-- What `help` with these arguments asks for: the page of the program or of one
command. -/
def helpTopic? : List String → Option Grammar
  | [] => some programGrammar
  | [name] => (commandGrammars.find? fun entry => entry.1 == name).map Prod.snd
  | _ => none

end RegistryClient.CommandLine

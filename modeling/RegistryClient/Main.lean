import RegistryClient.CommandLine.Run

/-!
# The program

The outer layer of the command line: it fetches what a run may look at, and
prints and reports how the run ends.  This build has no network, so a request is
never answered.
-/

namespace RegistryClient.CommandLine

/-- The content of a file, if it can be read. -/
def readFileContent (path : String) : IO (Option ByteArray) := do
  try return some (← IO.FS.readBinFile path)
  catch _ => return none

/-- The standard input, if it is text. -/
def readStandardInput : IO (Option String) := do
  let bytes ← (← IO.getStdin).readBinToEnd
  return String.fromUTF8? bytes

/-- The run reads the standard input. -/
def needsStandardInput (invocation : Invocation) : Bool :=
  match invocation.command with
  | .compile .standardInput => true
  | .query (.document .standardInput) _ => true
  | _ => false

/-- Looks at what an invocation needs, and at nothing else. -/
def lookAround (invocation : Invocation) : IO Surroundings := do
  let standardInput ← if needsStandardInput invocation then readStandardInput else pure (some "")
  let content ← match invocation.settings.configPath with
    | none => pure none
    | some path => readFileContent path
  return ⟨standardInput, fun _ => content, fun _ _ => .refused⟩

/-- Prints and reports how a run ends. -/
def conclude (ending : Ending) : IO UInt32 := do
  IO.print ending.printed
  match ending.complaint with
  | none => pure ()
  | some complaint => IO.eprintln s!"ERROR {complaint}"
  return ending.code.toUInt32

/-- A run with the arguments and the environment of this process. -/
def runProcess (arguments : List String) : IO UInt32 := do
  let settings ← Invocation.variableNames.mapM fun name => return (name, ← IO.getEnv name)
  let environment? (name : String) : Option String :=
    (settings.find? fun entry => entry.1 == name).bind Prod.snd
  match Invocation.parse environment? arguments with
  | .error interruption => conclude (interruption.ending environment?)
  | .ok invocation => conclude (invocation.ending (← lookAround invocation))

end RegistryClient.CommandLine

def main (arguments : List String) : IO UInt32 :=
  RegistryClient.CommandLine.runProcess arguments

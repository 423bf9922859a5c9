import ChatFlow.Chat.Input
import ChatFlow.Command.Arguments
import ChatFlow.Diagnostic.Finding
import ChatFlow.Json.Program
import ChatFlow.Settings.Load
import ChatFlow.Toml.Write

/-!
# Running commands

A command writes text and succeeds or fails.  Settings are loaded first, also
for a command that does not need them.
-/

namespace ChatFlow

/-- What a command finds around it. -/
structure Surroundings where
  files : Files
  /-- The formats that settings files can have. -/
  formats : List Settings.Format
  environment : Entries String
  /-- How many directories stand above the working directory. -/
  levels : Nat
  input : List UInt8 := []

/-- Why a command failed. -/
inductive Failure
  | settings (failure : Settings.Failure)
  | unreadableFile (path : String) (reason : FileError)
  /-- The input of a chat is no text. -/
  | unreadableInput
  /-- The flow file has errors. -/
  | erroneous (path : String) (count : Nat)
  /-- The settings cannot be shown. -/
  | unshowable
deriving DecidableEq, Repr

namespace Settings

/-- Why settings cannot be loaded, in words. -/
def LoadError.message : LoadError → String
  | .unavailable => "the configuration file cannot be read"
  | .malformed => "the configuration file is malformed"
  | .mistyped => "a value has the wrong type"
  | .unsectioned => "a section is no table"

def Failure.message : Failure → String
  | .load error => "Failed to load configuration: " ++ error.message
  | .defect found => "Failed to load configuration: " ++ found.message

end Settings

def Failure.message : Failure → String
  | .settings failure => failure.message
  | .unreadableFile path reason => "Failed to read " ++ path ++ ": " ++ reason.message
  | .unreadableInput => "Failed to read input: " ++ FileError.notText.message
  | .erroneous path count => path ++ " has " ++ toString count ++ " error(s)"
  | .unshowable => "Failed to render configuration: out-of-range value for u64 type"

/-- Why a chat over a flow file failed. -/
def ChatFailure.failure (path : String) : ChatFailure → Failure
  | .unreadableFile reason => .unreadableFile path reason
  | .unreadableInput => .unreadableInput

/-- What a command wrote, and why it failed, if it did. -/
structure Outcome where
  output : String := ""
  failure? : Option Failure := none
deriving DecidableEq, Repr

/-- The exit status of a program that ran a command. -/
def Outcome.status (outcome : Outcome) : Nat :=
  if outcome.failure?.isNone then 0 else 1

def Outcome.ofFailure (failure : Failure) : Outcome :=
  { failure? := some failure }

/-- Reads a flow file. -/
def Files.readSource (files : Files) (path : String) : Except Failure String :=
  (files.read path).mapError (.unreadableFile path)

/-- The diagnostics of a flow file. -/
def Files.diagnostics (files : Files) (path : String) : Except Failure (List Diagnostic) :=
  (files.readSource path).map fun source => (Source.Compilation.ofSource source).diagnostics

namespace Outcome

/-- Checking a flow file. -/
def ofCheck (files : Files) (path : String) : Outcome :=
  match files.diagnostics path with
  | .error failure => .ofFailure failure
  | .ok diagnostics =>
      let errors := (diagnostics.filter Diagnostic.isError).length
      let warnings := diagnostics.length - errors
      let summary :=
        path ++ ": " ++ toString errors ++ " error(s), " ++ toString warnings ++ " warning(s)"
      { output := String.join ((diagnostics.map Diagnostic.display ++ [summary]).map (· ++ "\n"))
        failure? := if errors = 0 then none else some (.erroneous path errors) }

/-- Compiling a flow file. -/
def ofCompile (files : Files) (path : String) (pretty : Bool) : Outcome :=
  match files.readSource path with
  | .error failure => .ofFailure failure
  | .ok source =>
      let value := (Program.ofSource source).toJson
      { output := (if pretty then value.pretty else value.render) ++ "\n" }

/-- Chatting over a flow file. -/
def ofChat (settings : Settings) (surroundings : Surroundings) (path : String) : Outcome :=
  let file := surroundings.files.read path
  let events := Chat.events (surroundings.files.find path).toOption []
    [{ bytes := surroundings.input }]
  let result := Chat.run settings file events
  { output := result.text
    failure? := result.failure?.map (ChatFailure.failure path) }

/-- Showing the settings. -/
def ofSettings (settings : Settings) : Outcome :=
  match settings.toToml? with
  | some text => { output := text }
  | none => .ofFailure .unshowable

end Outcome

/-- Runs a command with the settings that are loaded. -/
def Command.run (settings : Settings) (surroundings : Surroundings) : Command → Outcome
  | .check file => .ofCheck surroundings.files file
  | .compile file pretty => .ofCompile surroundings.files file pretty
  | .chat file => .ofChat settings surroundings file
  | .config => .ofSettings settings

/-- What the settings of an invocation are loaded from. -/
def Invocation.sources (invocation : Invocation) (surroundings : Surroundings) :
    Settings.Sources where
  files := surroundings.files
  formats := surroundings.formats
  environment := surroundings.environment
  dotenv? := Dotenv.find? surroundings.files (Dotenv.paths surroundings.levels)
  path? := invocation.settingsFile?

/-- Loads the settings and runs the command with them. -/
def Invocation.run (invocation : Invocation) (surroundings : Surroundings) : Outcome :=
  match Settings.load (invocation.sources surroundings) with
  | .error failure => .ofFailure (.settings failure)
  | .ok settings => invocation.command.run settings surroundings

end ChatFlow

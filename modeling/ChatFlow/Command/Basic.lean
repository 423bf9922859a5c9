/-!
# Commands

A command works on a flow file, or shows the settings.  On the command line
its name comes first, with the path of a settings file before or after it.
-/

namespace ChatFlow

inductive Command
  | check (file : String)
  | compile (file : String) (pretty : Bool)
  | chat (file : String)
  /-- Shows the settings. -/
  | config
deriving DecidableEq, Repr

/-- The flow file that a command works on. -/
def Command.file? : Command → Option String
  | .check file | .compile file _ | .chat file => some file
  | .config => none

/-- What a command line asks for. -/
structure Invocation where
  command : Command
  settingsFile? : Option String := none
deriving DecidableEq, Repr

/-- Why a command line asks for nothing that can be done. -/
inductive UsageError
  /-- It asks for help. -/
  | helpAsked
  /-- It gives neither options nor a command. -/
  | nothingAsked
  /-- It gives options but names no command. -/
  | noCommand
  | unknownCommand
  /-- A path that is needed is not there. -/
  | missingArgument
  /-- Something follows that the command does not know. -/
  | unknownArgument
  /-- A path is empty, or does not follow its option. -/
  | invalidValue
  /-- A value follows an option that takes none. -/
  | surplusValue
  /-- An option is given twice. -/
  | repeatedOption
deriving DecidableEq, Repr

/-- The exit status of a program that was called like this. -/
def UsageError.status : UsageError → Nat
  | .helpAsked => 0
  | _ => 2

end ChatFlow

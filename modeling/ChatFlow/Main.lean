import ChatFlow.Command.Run

/-!
# The program

Reads the command line, gathers what the command finds around it, and writes
what the command wrote.  A chat goes line by line, so that every answer is
seen before the next line is typed.
-/

namespace ChatFlow

/-! ## Surroundings -/

/-- The number of the fault that a directory is read. -/
def directoryCode : UInt32 := 21

/-- What a path leads to. -/
def probe (path : String) : IO (Except FileError File) := do
  try
    return .ok (.contents (← IO.FS.readBinFile path))
  catch fault =>
    match fault with
    | .inappropriateType _ code _ =>
        return if code = directoryCode then .ok .directory else .error .notDirectory
    | _ => return .error .missing

/-- The files that some paths lead to. -/
def probeAll (paths : List String) : IO Files := do
  let found ← paths.mapM fun path => do
    let file ← probe path
    return (path, file)
  return { find := fun path => (found.lookup path).getD (.error .missing) }

/-- The variable that bytes define, if they are text with an equals sign. -/
def variableOfBytes? (bytes : List UInt8) : Option (String × String) := do
  let text ← String.fromUTF8? ⟨bytes.toArray⟩
  let name := text.toList.takeWhile (· ≠ '=')
  let value := text.toList.drop (name.length + 1)
  some (String.ofList name, String.ofList value)

/-- The variables of this process. -/
def gatherVariables : IO (Entries String) := do
  try
    let bytes ← IO.FS.readBinFile "/proc/self/environ"
    return (bytes.toList.splitOn 0).filterMap variableOfBytes?
  catch _ => return []

/-- How many directories stand above the working directory. -/
def gatherLevels : IO Nat := do
  try
    let directory ← IO.currentDir
    return ((pathComponents directory.toString).filter (· ≠ "")).length
  catch _ => return 0

/-- Gathers what an invocation finds around it, except for input.  Settings files
are read in the formats that are defined. -/
def gather (invocation : Invocation) : IO Surroundings := do
  let environment ← gatherVariables
  let levels ← gatherLevels
  let formats := [Settings.Format.toml, Settings.Format.json]
  let above ← probeAll (Dotenv.paths levels)
  let nearby : Surroundings := { files := above, formats, environment, levels }
  let paths := (invocation.sources nearby).triedPaths
  let files ← probeAll (Dotenv.paths levels ++ paths ++ invocation.command.file?.toList)
  return { nearby with files }

/-! ## Running -/

def writeLines (lines : List String) : IO Unit := do
  let output ← IO.getStdout
  lines.forM output.putStrLn
  output.flush

/-- Goes on with a chat until it ends, and says why it failed, if it did. -/
partial def converse (path : String) (preview : Preview) : IO (Option ChatFailure) := do
  let input ← IO.getStdin
  let line? ← try some <$> input.getLine catch _ => pure none
  match line? with
  | none => return some .unreadableInput
  | some "" => return none
  | some text =>
      let line := Text.trimmed text
      if Chat.quits line then return none
      let files ← probeAll [path]
      let (next, told) := Chat.hear preview line (files.read path)
      writeLines told
      converse path next

/-- Chats over the lines that are typed. -/
def chat (settings : Settings) (files : Files) (path : String) : IO (Option Failure) := do
  match files.readSource path with
  | .error failure => return some failure
  | .ok source =>
      let preview := Preview.start source settings.options
      writeLines (Chat.opening settings preview)
      return (← converse path preview).map (ChatFailure.failure path)

/-- Runs an invocation, and says why it failed, if it did. -/
def perform (invocation : Invocation) : IO (Option Failure) := do
  let surroundings ← gather invocation
  match invocation.command, Settings.load (invocation.sources surroundings) with
  | .chat path, .ok settings => chat settings surroundings.files path
  | _, _ =>
      let outcome := invocation.run surroundings
      IO.print outcome.output
      return outcome.failure?

/-- How the program is called. -/
def usage : String :=
  "Usage: fluxo [--config PATH] COMMAND\n\n" ++
    "Commands:\n" ++
    "  check FILE               report problems of a flow file\n" ++
    "  compile FILE [--pretty]  print the program of a flow file as JSON\n" ++
    "  chat FILE                chat over a flow file\n" ++
    "  config                   print the settings\n"

/-- Runs the program with the words of its command line, and says its exit
status. -/
def runProgram (words : List String) : IO UInt32 := do
  match Invocation.ofWords words with
  | .error error =>
      if error.status = 0 then IO.print usage else IO.eprint usage
      return error.status.toUInt32
  | .ok invocation =>
      match ← perform invocation with
      | none => return 0
      | some failure =>
          IO.eprintln ("Error: " ++ failure.message)
          return 1

end ChatFlow

def main (words : List String) : IO UInt32 :=
  ChatFlow.runProgram words

import ChatFlow.Command.Basic

/-!
# Reading a command line

Words are read from left to right.  An option is a word with two hyphens in
front, and takes its value after an equals sign or from the next word; after
two hyphens alone no word is an option.  A value that is a word of its own is
only looked at when the next argument is complete, so that a fault of that
argument may come before its own.
-/

namespace ChatFlow

namespace Arguments

/-! ## Words -/

/-- What a word looks like. -/
inductive Shape
  /-- Two hyphens, after which no word is an option. -/
  | separator
  /-- The name of an option and its value, if there is one. -/
  | option (name : String) (value? : Option String)
  /-- The letters of options, of which there is at least one. -/
  | letters (first : Char)
  | plain
deriving DecidableEq

def shape (word : String) : Shape :=
  match word.toList with
  | ['-', '-'] => .separator
  | '-' :: '-' :: rest =>
      let name := rest.takeWhile (· ≠ '=')
      let value? :=
        match rest.dropWhile (· ≠ '=') with
        | [] => none
        | _ :: value => some (String.ofList value)
      .option (String.ofList name) value?
  | '-' :: first :: _ => .letters first
  | _ => .plain

/-! ## Arguments read so far -/

/-- The argument that was read last, if its value has not been looked at. -/
inductive Pending
  | nothing
  /-- The settings file, whose path may still have to come. -/
  | settingsFile (path? : Option String)
  | file (path : String)
deriving DecidableEq

structure Found where
  settingsFile? : Option String := none
  file? : Option String := none
  pretty : Bool := false
  pending : Pending := .nothing

namespace Found

/-- Whether the next word is the path of the settings file. -/
def awaitsPath (found : Found) : Bool :=
  found.pending = .settingsFile none

/-- Whether there is a path of a flow file. -/
def hasFile (found : Found) : Bool :=
  match found.pending with
  | .file _ => true
  | _ => found.file?.isSome

/-- Looks at the value of the argument that was read last. -/
def settle (found : Found) : Except UsageError Found :=
  match found.pending with
  | .nothing => .ok found
  | .settingsFile none => .error .invalidValue
  | .settingsFile (some path) =>
      if found.settingsFile?.isSome then .error .repeatedOption
      else if path = "" then .error .invalidValue
      else .ok { found with settingsFile? := some path, pending := .nothing }
  | .file path =>
      if path = "" then .error .invalidValue
      else .ok { found with file? := some path, pending := .nothing }

end Found

/-! ## Options -/

/-- What a command takes besides the options of all commands. -/
structure Signature where
  takesFile : Bool := false
  takesPretty : Bool := false

/-- Reads an option. -/
def readOption (signature : Signature) (found : Found) (name : String)
    (value? : Option String) : Except UsageError Found :=
  if name = "config" then do
    let settled ← found.settle
    match value? with
    | some path => Found.settle { settled with pending := .settingsFile (some path) }
    | none => .ok { settled with pending := .settingsFile none }
  else if name = "help" then
    match value? with
    | some _ => .error .surplusValue
    | none => found.settle.bind fun _ => .error .helpAsked
  else if name = "pretty" && signature.takesPretty then
    match value? with
    | some _ => .error .surplusValue
    | none => do
        let settled ← found.settle
        if settled.pretty then .error .repeatedOption
        else .ok { settled with pretty := true }
  else .error .unknownArgument

/-- Reads an option of one letter, which can only ask for help. -/
def readLetter (found : Found) (letter : Char) : Except UsageError Found :=
  if letter = 'h' then found.settle.bind fun _ => .error .helpAsked
  else .error .unknownArgument

/-! ## Arguments of a command -/

/-- Reads a word that is no option. -/
def readFile (signature : Signature) (found : Found) (word : String) :
    Except UsageError Found :=
  if signature.takesFile && !found.hasFile then do
    let settled ← found.settle
    .ok { settled with pending := .file word }
  else .error .unknownArgument

/-- Reads the words after the name of a command, all of them as they are or
not. -/
def readWords (signature : Signature) (verbatim : Bool) (found : Found) :
    List String → Except UsageError Found
  | [] => found.settle
  | word :: rest =>
      if verbatim then do readWords signature true (← readFile signature found word) rest
      else
        match shape word with
        | .separator => readWords signature true found rest
        | .option name value? => do
            readWords signature false (← readOption signature found name value?) rest
        | .letters first => do readWords signature false (← readLetter found first) rest
        | .plain =>
            if found.awaitsPath then
              readWords signature false
                { found with pending := .settingsFile (some word) } rest
            else do readWords signature false (← readFile signature found word) rest

/-! ## Commands -/

/-- A command by its name: what it takes, and what it is then. -/
structure Entry where
  name : String
  signature : Signature
  command : String → Bool → Command

def commands : List Entry :=
  [⟨"check", { takesFile := true }, fun file _ => .check file⟩,
    ⟨"compile", { takesFile := true, takesPretty := true }, .compile⟩,
    ⟨"chat", { takesFile := true }, fun file _ => .chat file⟩,
    ⟨"config", {}, fun _ _ => .config⟩]

def helpName : String := "help"

/-- Whether a word names a command or asks for help. -/
def isCommandName (word : String) : Bool :=
  word = helpName || commands.any (·.name = word)

/-- What comes of asking for help on some words. -/
def readHelp : List String → UsageError
  | [] => .helpAsked
  | [word] => if isCommandName word then .helpAsked else .unknownCommand
  | _ :: _ :: _ => .unknownCommand

/-- Reads the arguments of a command.  A settings file that is named after the
command takes the place of one that is named before it. -/
def readCommand (entry : Entry) (before : Found) (words : List String) :
    Except UsageError Invocation := do
  let found ← readWords entry.signature false {} words
  if entry.signature.takesFile && found.file?.isNone then .error .missingArgument
  else
    let before ← before.settle
    .ok
      { command := entry.command (found.file?.getD "") found.pretty
        settingsFile? := found.settingsFile? <|> before.settingsFile? }

/-- What comes of a word that names no command. -/
def readStranger (verbatim : Bool) (word : String) : UsageError :=
  if verbatim && isCommandName word then .unknownArgument else .unknownCommand

/-- What comes of words without the name of a command. -/
def readNothing (found : Found) : Except UsageError Invocation := do
  let settled ← found.settle
  .error (if settled.settingsFile?.isSome then .noCommand else .nothingAsked)

/-- Reads the words up to the name of a command, and those after it. -/
def readFrom (found : Found) : List String → Except UsageError Invocation
  | [] => readNothing found
  | word :: rest =>
      if found.awaitsPath && shape word = .plain then
        readFrom { found with pending := .settingsFile (some word) } rest
      else if word = helpName then .error (readHelp rest)
      else
        match commands.find? (·.name = word), shape word with
        | some entry, _ => readCommand entry found rest
        | none, .separator =>
            match rest with
            | [] => readNothing found
            | next :: _ => .error (readStranger true next)
        | none, .option name value? => do readFrom (← readOption {} found name value?) rest
        | none, .letters first => do readFrom (← readLetter found first) rest
        | none, .plain => .error (readStranger false word)

end Arguments

/-- Reads the words of a command line. -/
def Invocation.ofWords (words : List String) : Except UsageError Invocation :=
  Arguments.readFrom {} words

end ChatFlow

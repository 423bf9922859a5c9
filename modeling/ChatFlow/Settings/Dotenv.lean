import ChatFlow.Entries
import ChatFlow.Files
import ChatFlow.Text.Alphanumeric
import ChatFlow.Text.Blank

/-!
# Variables from a text

A text can define variables for programs that are started near it.  Its lines
are first joined as far as quotes and escapes go on over a line end.  Each of
the joined lines then defines a variable, or is empty or a comment.

A value may stand in quotes, in whole or in parts.  Outside single quotes a
dollar sign puts in the value of another variable, and a backslash escapes
the next character.  Reading stops at the first line with a fault.

The text stands in a file in the working directory or in one above it.
-/

namespace ChatFlow.Dotenv

/-! ## Joining lines -/

/-- Where the text of a line is in. -/
inductive Quoting
  | plain
  /-- Directly after white space. -/
  | blank
  | escaped
  | double
  | doubleEscaped
  | single
  | singleEscaped
deriving DecidableEq

/-- Where the text is in after a character that is in no quotes. -/
def Quoting.start (c : Char) : Quoting :=
  if c = '\\' then .escaped
  else if c = '"' then .double
  else if c = '\'' then .single
  else .plain

def Quoting.next (c : Char) : Quoting → Quoting
  | .plain =>
      if Text.isBlank c && c ≠ '\n' && c ≠ '\r' then .blank else Quoting.start c
  | .blank => Quoting.start c
  | .escaped => .plain
  | .double => if c = '\\' then .doubleEscaped else if c = '"' then .plain else .double
  | .doubleEscaped => .double
  | .single => if c = '\\' then .singleEscaped else if c = '\'' then .plain else .single
  | .singleEscaped => .single

/-- The text of a line up to a comment, and where it is in at its end unless a
comment ends it. -/
def scanLine (quoting : Quoting) : List Char → List Char × Option Quoting
  | [] => ([], some quoting)
  | c :: rest =>
      if quoting = .blank && c = '#' then ([], none)
      else
        let (kept, ending) := scanLine (quoting.next c) rest
        (c :: kept, ending)

/-- Joins lines, which come with their line feeds, to the text before them.
A line with a fault is nothing, and nothing follows it. -/
def join (before : List Char) (quoting : Quoting) :
    List (Option (List Char)) → List (Option (List Char))
  | [] => if quoting = .plain then [] else [none]
  | none :: _ => [none]
  | some line :: rest =>
      if (Text.trimStart (before ++ line)).head? = some '#' then join [] .plain rest
      else
        match scanLine quoting line with
        | (kept, none) => some (before ++ kept) :: join [] .plain rest
        | (_, some .plain) => some (before ++ line) :: join [] .plain rest
        | (_, some unfinished) => join (before ++ line) unfinished rest

/-! ## Values -/

/-- Where a value is in. -/
inductive Spot
  | plain
  | escaped
  | single
  /-- In the name of a variable after a dollar sign; the last character first. -/
  | name (found : List Char)
  /-- In the name of a variable in braces. -/
  | braced (found : List Char)
  /-- After a value, where only a comment may follow. -/
  | ended

/-- The text of a variable, which is empty if there is none. -/
def valueOf (environment : Entries String) (found : List Char) : List Char :=
  ((environment.lookup (String.ofList found.reverse)).getD "").toList

/-- The character that an escape stands for. -/
def escape? (c : Char) : Option Char :=
  if c ∈ ['\\', '\'', '"', '$', ' '] then some c
  else if c = 'n' then some '\n'
  else none

/-- A value with text in front of it. -/
def after (found : List Char) : Option (List Char) → Option (List Char) :=
  Option.map (found ++ ·)

/-- Reads a value, inside double quotes or not. -/
def readValue (environment : Entries String) (double : Bool) (spot : Spot) :
    List Char → Option (List Char)
  | [] =>
      match spot with
      | .plain | .escaped | .ended => if double then none else some []
      | .name found => if double then none else some (valueOf environment found)
      | .single | .braced _ => none
  | c :: rest =>
      match spot with
      | .ended =>
          if c = ' ' || c = '\t' then readValue environment double .ended rest
          else if c = '#' then some []
          else none
      | .escaped =>
          match escape? c with
          | some plain => after [plain] (readValue environment double .plain rest)
          | none => none
      | .single =>
          if c = '\'' then readValue environment double .plain rest
          else after [c] (readValue environment double .single rest)
      | .name found =>
          let value := valueOf environment found
          if Text.isAlphanumeric c then readValue environment double (.name (c :: found)) rest
          else if c = '{' && found.isEmpty then readValue environment double (.braced []) rest
          else if c = '$' then after value (readValue environment double (.name []) rest)
          else after (value ++ [c]) (readValue environment double .plain rest)
      | .braced found =>
          let value := valueOf environment found
          if c = '}' then after value (readValue environment double .plain rest)
          else readValue environment double (.braced (c :: found)) rest
      | .plain =>
          if c = '$' then readValue environment double (.name []) rest
          else if c = '\\' then readValue environment double .escaped rest
          else if c = '"' then readValue environment (!double) .plain rest
          else if double then after [c] (readValue environment double .plain rest)
          else if c = '\'' then readValue environment double .single rest
          else if c = ' ' || c = '\t' then readValue environment double .ended rest
          else after [c] (readValue environment double .plain rest)

/-! ## Definitions -/

def isNameStart (c : Char) : Bool :=
  c.isAlpha || c = '_'

def isNameChar (c : Char) : Bool :=
  c.isAlphanum || c = '_' || c = '.'

/-- The name at the start of a text, with what follows it and white space. -/
def readName? (text : List Char) : Option (List Char × List Char) :=
  if text.head?.any isNameStart then
    some (text.takeWhile isNameChar, Text.trimStart (text.dropWhile isNameChar))
  else none

/-- The text after an equals sign. -/
def afterEquals? : List Char → Option (List Char)
  | '=' :: rest => some (Text.trimStart rest)
  | _ => none

/-- The name that a line defines and the text of its value.  A word may stand
before the name, and may be the name. -/
def readDefinition? (text : List Char) : Option (List Char × List Char) := do
  let (name, rest) ← readName? text
  match afterEquals? rest with
  | some value => some (name, value)
  | none =>
      if name = "export".toList then
        let (name, rest) ← readName? rest
        (afterEquals? rest).map (name, ·)
      else none

def startsNothing (text : List Char) : Bool :=
  text.isEmpty || text.head? = some '#'

/-- Reads a line: the variable it defines, if any, unless it has a fault. -/
def readLine? (environment : Entries String) (line : List Char) :
    Option (Option (String × String)) :=
  let text := Text.trimStart (Text.trimEnd line)
  if startsNothing text then some none
  else do
    let (name, rest) ← readDefinition? text
    let value ← if startsNothing rest then some [] else readValue environment false .plain rest
    some (some (String.ofList name, String.ofList value))

/-- Adds a variable, unless there is one of its name. -/
def define (name value : String) (environment : Entries String) : Entries String :=
  if (environment.lookup name).isSome then environment else environment ++ [(name, value)]

/-- Adds the variables that joined lines define, up to the first fault. -/
def addLines (environment : Entries String) : List (Option (List Char)) → Entries String
  | [] => environment
  | none :: _ => environment
  | some line :: rest =>
      match readLine? environment line with
      | none => environment
      | some none => addLines environment rest
      | some (some (name, value)) => addLines (define name value environment) rest

/-! ## Bytes -/

def lineFeed : UInt8 := 10

/-- A byte order mark in front of a text is no part of it. -/
def withoutByteOrderMark : List UInt8 → List UInt8
  | 0xEF :: 0xBB :: 0xBF :: rest => rest
  | bytes => bytes

/-- The lines that stretches between line feeds make, with their line feeds;
the last one counts only if it holds something. -/
def linesOfStretches : List (List UInt8) → List (List UInt8)
  | [] => []
  | [last] => if last.isEmpty then [] else [last]
  | line :: next :: rest => (line ++ [lineFeed]) :: linesOfStretches (next :: rest)

/-- Adds the variables that a text defines. -/
def addBytes (bytes : ByteArray) (environment : Entries String) : Entries String :=
  let stretches := (withoutByteOrderMark bytes.toList).splitOn lineFeed
  let lines := (linesOfStretches stretches).map fun line =>
    (String.fromUTF8? ⟨line.toArray⟩).map String.toList
  addLines environment (join [] .plain lines)

/-! ## Where the file is -/

def fileName : String := ".env"

/-- The paths that the file is looked for under: in the working directory, and
then in each of the directories above it, of which there are this many. -/
def paths (levels : Nat) : List String :=
  (List.range (levels + 1)).map fun level =>
    String.join (List.replicate level "../") ++ fileName

/-- What stands in the file that is found.  The search goes on past a directory
of its name, and any fault but a missing file ends it. -/
def find? (files : Files) : List String → Option ByteArray
  | [] => none
  | path :: rest =>
      match files.find path with
      | .ok (.contents bytes) => some bytes
      | .ok .directory | .error .missing => find? files rest
      | .error _ => none

end ChatFlow.Dotenv

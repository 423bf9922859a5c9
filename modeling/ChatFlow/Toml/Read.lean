import ChatFlow.Toml.Node
import ChatFlow.Toml.Scalar

/-!
# Reading TOML

A text is read as statements: headers of tables, and keys with their values.
The statements are then carried out one after the other.
-/

namespace ChatFlow.Toml

/-- Values may be nested less deep than this, and dotted keys have fewer
parts. -/
def depthLimit : Nat := 80

/-! ## Keys -/

def isBareChar (c : Char) : Bool :=
  c.isAlphanum || c = '_' || c = '-'

/-- Reads one key. -/
def readName : Scan String := fun text =>
  match readLine text with
  | some (characters, rest) => some (String.ofList characters, rest)
  | none =>
      let name := text.takeWhile isBareChar
      if name.isEmpty then none
      else some (String.ofList name, text.dropWhile isBareChar)

/-- Reads keys with points between them and space around them; `fuel` bounds
their number. -/
def readNames : Nat → Scan (List String)
  | 0, _ => none
  | fuel + 1, text => do
      let (name, rest) ← readName (skipSpace text)
      match skipSpace rest with
      | '.' :: after =>
          let (names, rest) ← readNames fuel after
          some (name :: names, rest)
      | after => some ([name], after)

/-- Reads a dotted key. -/
def readKeys : Scan (List String) :=
  readNames (depthLimit - 1)

/-! ## Values -/

/-- The value of an inline table with these keys and values. -/
def inlineTable (pairs : List (List String × Setting)) : Option Setting :=
  (pairs.foldlM (fun node (keys, value) => Node.assign keys value node) Node.empty).map
    Node.toSetting

mutual

/-- Reads a value inside the given number of others; `fuel` bounds the parts
still to be read. -/
def readValue (fuel depth : Nat) (text : List Char) : Option (Setting × List Char) :=
  match fuel with
  | 0 => none
  | fuel + 1 =>
      match text with
      | '[' :: rest =>
          if depth + 1 < depthLimit then do
            let (items, rest) ← readItems fuel (depth + 1) (skipFiller rest)
            some (.array items, rest)
          else none
      | '{' :: rest =>
          if depth + 1 < depthLimit then do
            let (pairs, rest) ←
              match skipSpace rest with
              | '}' :: after => some ([], after)
              | inside => readPairs fuel (depth + 1) inside
            let table ← inlineTable pairs
            some (table, rest)
          else none
      | _ => readScalar text

/-- Reads the items of an array up to its bracket, from after a comma on. -/
def readItems (fuel depth : Nat) (text : List Char) : Option (List Setting × List Char) :=
  match fuel with
  | 0 => none
  | fuel + 1 =>
      match text with
      | ']' :: rest => some ([], rest)
      | _ => do
          let (item, rest) ← readValue fuel depth text
          match skipFiller rest with
          | ',' :: after =>
              let (items, rest) ← readItems fuel depth (skipFiller after)
              some (item :: items, rest)
          | ']' :: after => some ([item], after)
          | _ => none

/-- Reads the keys and values of an inline table up to its brace. -/
def readPairs (fuel depth : Nat) (text : List Char) :
    Option (List (List String × Setting) × List Char) :=
  match fuel with
  | 0 => none
  | fuel + 1 => do
      let (keys, rest) ← readKeys text
      match rest with
      | '=' :: afterMark =>
          let (value, rest) ← readValue fuel depth (skipSpace afterMark)
          match skipSpace rest with
          | ',' :: after =>
              let (pairs, rest) ← readPairs fuel depth after
              some ((keys, value) :: pairs, rest)
          | '}' :: after => some ([(keys, value)], after)
          | _ => none
      | _ => none

end

/-! ## Statements -/

inductive Statement
  | table (keys : List String)
  | element (keys : List String)
  | definition (keys : List String) (value : Setting)

/-- Reads a statement up to the end of its line. -/
def readStatement (fuel : Nat) (text : List Char) : Option (Statement × List Char) :=
  match text with
  | '[' :: '[' :: inside => do
      match ← readKeys inside with
      | (keys, ']' :: ']' :: rest) => some (.element keys, ← lineEnd? rest)
      | _ => none
  | '[' :: inside => do
      match ← readKeys inside with
      | (keys, ']' :: rest) => some (.table keys, ← lineEnd? rest)
      | _ => none
  | _ => do
      match ← readKeys text with
      | (keys, '=' :: afterMark) =>
          let (value, rest) ← readValue fuel 0 (skipSpace afterMark)
          some (.definition keys value, ← lineEnd? rest)
      | _ => none

/-- Reads all statements; `fuel` bounds their number and the parts of a
value. -/
def readStatements : Nat → List Char → Option (List Statement)
  | 0, _ => none
  | fuel + 1, text =>
      match skipFiller text with
      | [] => some []
      | start => do
          let (statement, rest) ← readStatement (fuel + 1) start
          (readStatements fuel rest).map (statement :: ·)

/-! ## Documents -/

/-- What has been written, and the keys of the table that is open. -/
structure Progress where
  root : Node := .empty
  place : List String := []

/-- Opens a table under keys, of which there has to be one. -/
def Progress.enter (progress : Progress) (open? : String → Node → Option Node)
    (keys : List String) : Option Progress := do
  let key ← keys.getLast?
  let root ← progress.root.change .implied (open? key) keys.dropLast
  some { root, place := keys }

def Progress.carryOut (progress : Progress) : Statement → Option Progress
  | .table keys => progress.enter Node.openTable keys
  | .element keys => progress.enter Node.openElement keys
  | .definition keys value =>
      (progress.root.change .implied (Node.assign keys value) progress.place).map fun root =>
        { progress with root }

/-- A byte order mark in front of a text is no part of it. -/
def withoutByteOrderMark : List Char → List Char
  | '\ufeff' :: rest => rest
  | text => text

/-- Reads a text as the entries of its table.  No character opens more than
two parts of a value. -/
def read (text : String) : Option (Entries Setting) := do
  let characters := withoutByteOrderMark text.toList
  let statements ← readStatements (2 * characters.length + 2) characters
  let progress ← statements.foldlM Progress.carryOut {}
  match Moment.resolve progress.root.toSetting with
  | some (.table entries) => some entries
  | _ => none

end ChatFlow.Toml

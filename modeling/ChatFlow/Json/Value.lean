import ChatFlow.Text.Digits

/-!
# JSON values and their text

A value is written compactly, without white space, or laid out: two spaces of
indentation for each level, one item on each line, and a space after the
colon of a member.  An empty array or object has no line of its own in either
form.  In text the quote, the backslash and the control characters below the
space are escaped, and everything else stands for itself.
-/

namespace ChatFlow.Json

/-- The values that are written. -/
inductive Value
  | null
  | bool (value : Bool)
  | natural (value : Nat)
  | text (value : String)
  | array (items : List Value)
  | object (members : List (String × Value))
deriving Repr, Inhabited

/-- A character as it stands between quotes. -/
def escape (c : Char) : List Char :=
  if c = '"' then ['\\', '"']
  else if c = '\\' then ['\\', '\\']
  else if c = '\x08' then ['\\', 'b']
  else if c = '\x0c' then ['\\', 'f']
  else if c = '\n' then ['\\', 'n']
  else if c = '\r' then ['\\', 'r']
  else if c = '\t' then ['\\', 't']
  else if c.toNat < 0x20 then
    ['\\', 'u', '0', '0', Nat.digitChar (c.toNat / 16), Nat.digitChar (c.toNat % 16)]
  else [c]

def quote (text : List Char) : List Char :=
  '"' :: text.flatMap escape ++ ['"']

/-! ## Compact text -/

mutual

/-- The text of a value without white space. -/
def Value.compact : Value → List Char
  | .null => "null".toList
  | .bool value => (if value then "true" else "false").toList
  | .natural value => Text.decimal value
  | .text value => quote value.toList
  | .array items => '[' :: compactItems items ++ [']']
  | .object members => '{' :: compactMembers members ++ ['}']

def compactItems : List Value → List Char
  | [] => []
  | item :: rest =>
      item.compact ++ (if rest.isEmpty then [] else ',' :: compactItems rest)

def compactMembers : List (String × Value) → List Char
  | [] => []
  | (key, value) :: rest =>
      quote key.toList ++ ':' :: value.compact ++
        (if rest.isEmpty then [] else ',' :: compactMembers rest)

end

/-! ## Laid out text -/

/-- The start of a line at a level. -/
def newline (level : Nat) : List Char :=
  '\n' :: List.replicate (2 * level) ' '

mutual

/-- The text of a value laid out from a level on. -/
def Value.layOut (level : Nat) : Value → List Char
  | .array (item :: rest) =>
      '[' :: layOutItems (level + 1) (item :: rest) ++ newline level ++ [']']
  | .object (member :: rest) =>
      '{' :: layOutMembers (level + 1) (member :: rest) ++ newline level ++ ['}']
  | value => value.compact

def layOutItems (level : Nat) : List Value → List Char
  | [] => []
  | item :: rest =>
      newline level ++ item.layOut level ++
        (if rest.isEmpty then [] else ',' :: layOutItems level rest)

def layOutMembers (level : Nat) : List (String × Value) → List Char
  | [] => []
  | (key, value) :: rest =>
      newline level ++ quote key.toList ++ ':' :: ' ' :: value.layOut level ++
        (if rest.isEmpty then [] else ',' :: layOutMembers level rest)

end

/-- The compact text of a value. -/
def Value.render (value : Value) : String :=
  String.ofList value.compact

/-- The laid out text of a value. -/
def Value.pretty (value : Value) : String :=
  String.ofList (value.layOut 0)

end ChatFlow.Json

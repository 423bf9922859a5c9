import ChatFlow.Settings.Setting

/-!
# Tables of TOML while they are written

A table may be spread over a text, but each part of it is defined once.  A
node remembers how it came about, which decides what may still be added.
-/

namespace ChatFlow.Toml

/-- How a table was opened. -/
inductive Opening
  /-- By its own header. -/
  | header
  /-- By the header of a table inside it. -/
  | implied
  /-- By a dotted key. -/
  | dotted
deriving DecidableEq, Repr

inductive Node
  | value (value : Setting)
  | table (opening : Opening) (entries : List (String × Node))
  /-- An array of tables, of which the last one is still open. -/
  | tables (before : List Node) (last : Node)
deriving Repr, Inhabited

namespace Node

/-- A table with a header and nothing in it. -/
def empty : Node :=
  .table .header []

mutual

/-- The value that a node has in the end. -/
def toSetting : Node → Setting
  | .value given => given
  | .table _ entries => .table (entriesToSettings entries)
  | .tables before last => .array (toSettings before ++ [last.toSetting])

def toSettings : List Node → List Setting
  | [] => []
  | node :: rest => node.toSetting :: toSettings rest

def entriesToSettings : List (String × Node) → List (String × Setting)
  | [] => []
  | (name, node) :: rest => (name, node.toSetting) :: entriesToSettings rest

end

/-- Changes the table that keys lead to, opening the tables on the way.  A
dotted key must not enter a table with a header. -/
def change (opening : Opening) (step : Node → Option Node) : List String → Node → Option Node
  | [], node => step node
  | key :: keys, .table own entries => do
      let changed ←
        match entries.lookup key with
        | none => change opening step keys (.table opening [])
        | some (.value _) => none
        | some (.tables before last) =>
            (change opening step keys last).map (.tables before)
        | some (.table inner inside) =>
            if opening = .dotted && inner = .header then none
            else change opening step keys (.table inner inside)
      some (.table own (Entries.put key changed entries))
  | _ :: _, _ => none

/-- Opens a table under a key by its header.  A table that was only implied is
moved to the end of the entries. -/
def openTable (key : String) : Node → Option Node
  | .table own entries =>
      match entries.lookup key with
      | none => some (.table own (Entries.put key empty entries))
      | some (.table .implied inside) =>
          some (.table own
            (entries.filter (·.1 ≠ key) ++ [(key, .table .header inside)]))
      | some _ => none
  | _ => none

/-- Opens the next table of an array under a key. -/
def openElement (key : String) : Node → Option Node
  | .table own entries =>
      match entries.lookup key with
      | none => some (.table own (Entries.put key (.tables [] empty) entries))
      | some (.tables before last) =>
          some (.table own (Entries.put key (.tables (before ++ [last]) empty) entries))
      | some _ => none
  | _ => none

/-- Gives a key of a table its value.  Dotted keys add only to tables that
dotted keys opened. -/
def define (isDotted : Bool) (key : String) (value : Setting) : Node → Option Node
  | .table own entries =>
      if decide (own = .dotted) = isDotted && (entries.lookup key).isNone then
        some (.table own (Entries.put key (.value value) entries))
      else none
  | _ => none

/-- Gives a dotted key its value; there has to be a key. -/
def assign (keys : List String) (value : Setting) (node : Node) : Option Node :=
  let within := keys.dropLast
  keys.getLast?.bind fun key => node.change .dotted (define (!within.isEmpty) key value) within

end Node

end ChatFlow.Toml

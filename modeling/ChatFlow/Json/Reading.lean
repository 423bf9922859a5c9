/-!
# What reading a JSON text finds

A text is read into a `Reading` before anyone asks for a particular type: the
tree of values found, up to the first place where the text is no JSON.  That
place is kept in the tree, because whether it is ever reached, and what is
reported there, depends on what is asked for.  A value that is asked for is
read; one that nobody asks for is skipped, which checks its shape only.

An array or object is closed by its bracket, or ends at a fault after one of
its items; after a comma there is always another item, if need be `absent`.
-/

namespace ChatFlow.Json

/-- Why a text is no JSON. -/
inductive Fault
  /-- The text ends too soon. -/
  | cutShort
  | malformed
deriving DecidableEq, Repr

/-- Why a value of a type cannot be read. -/
inductive ReadError
  | fault (fault : Fault)
  /-- The text is JSON, but of another shape. -/
  | mismatch
deriving DecidableEq, Repr

inductive Number
  | natural (value : UInt64)
  /-- The number below zero with this size, which is at most `2 ^ 63`. -/
  | negative (size : Nat)
  | real (value : Float)
deriving Repr

inductive Reading
  /-- The text ends before a value starts. -/
  | absent
  | null
  | bool (value : Bool)
  | number (value : Number)
  | text (value : String)
  /-- Text in quotes with a fault in it: what reading it reports, and what
  skipping it reports, if anything. -/
  | brokenText (read : Fault) (skipped : Option Fault)
  /-- A fault in a number or a word, or a character that starts no value. -/
  | broken (read : Fault) (skipped : Option Fault)
  | array (items : List Reading) (ending : Option Fault)
  /-- The key of a member is what stands there, text or not. -/
  | object (members : List (Reading × Reading)) (ending : Option Fault)
deriving Repr, Inhabited

abbrev Result (α : Type) := Except ReadError α

/-- Reports a fault, if there is one. -/
def report : Option Fault → Result Unit
  | none => .ok ()
  | some fault => .error (.fault fault)

namespace Reading

/-- The key of a member; nothing but text can be one. -/
def key : Reading → Result String
  | .text name => .ok name
  | .brokenText read _ => .error (.fault read)
  | .absent => .error (.fault .cutShort)
  | _ => .error (.fault .malformed)

/-- Skips the key of a member. -/
def skipKey : Reading → Result Unit
  | .text _ => .ok ()
  | .brokenText _ skipped => report skipped
  | .absent => .error (.fault .cutShort)
  | _ => .error (.fault .malformed)

mutual

/-- Skips a value: what is reported is the first fault of its shape. -/
def skip : Reading → Result Unit
  | .absent => .error (.fault .cutShort)
  | .brokenText _ skipped | .broken _ skipped => report skipped
  | .array items ending => do
      skipItems items
      report ending
  | .object members ending => do
      skipMembers members
      report ending
  | _ => .ok ()

def skipItems : List Reading → Result Unit
  | [] => .ok ()
  | item :: rest => do
      item.skip
      skipItems rest

def skipMembers : List (Reading × Reading) → Result Unit
  | [] => .ok ()
  | (key, value) :: rest => do
      key.skipKey
      value.skip
      skipMembers rest

end

/-- Containers may be nested less deep than this where any value is read. -/
def depthLimit : Nat := 128

mutual

/-- Reads a value of any shape, inside the given number of containers. -/
def readAny (depth : Nat) : Reading → Result Unit
  | .absent => .error (.fault .cutShort)
  | .brokenText read _ | .broken read _ => .error (.fault read)
  | .array items ending =>
      if depth + 1 < depthLimit then do
        readAnyItems (depth + 1) items
        report ending
      else .error (.fault .malformed)
  | .object members ending =>
      if depth + 1 < depthLimit then do
        readAnyMembers (depth + 1) members
        report ending
      else .error (.fault .malformed)
  | _ => .ok ()

def readAnyItems (depth : Nat) : List Reading → Result Unit
  | [] => .ok ()
  | item :: rest => do
      item.readAny depth
      readAnyItems depth rest

def readAnyMembers (depth : Nat) : List (Reading × Reading) → Result Unit
  | [] => .ok ()
  | (key, value) :: rest => do
      let _ ← key.key
      value.readAny depth
      readAnyMembers depth rest

end

end Reading

end ChatFlow.Json

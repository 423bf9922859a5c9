import ChatFlow.Json.Scan

/-!
# Reading values of particular types

A decoder reads one type from a `Reading` and reports the first problem that
a reader going from left to right would meet.  Records are read from objects
or from arrays.  In an object unknown members are skipped and no known one
may come twice; in an array the fields stand in their order, without more
items behind them.
-/

namespace ChatFlow.Json

abbrev Decoder (α : Type) := Reading → Result α

/-- The problem of a value that has another shape than the one asked for. -/
def Reading.unfit {α : Type} : Reading → Result α
  | .absent => .error (.fault .cutShort)
  | .brokenText read _ | .broken read _ => .error (.fault read)
  | _ => .error .mismatch

def readText : Decoder String
  | .text value => .ok value
  | other => other.unfit

def readUnsigned : Decoder UInt64
  | .number (.natural value) => .ok value
  | other => other.unfit

def readNull : Decoder Unit
  | .null => .ok ()
  | other => other.unfit

/-- Reads null as nothing. -/
def readOption {α : Type} (decode : Decoder α) : Decoder (Option α)
  | .null => .ok none
  | other => (decode other).map some

/-- Reads the items of an array in turn. -/
def readItems {α : Type} (decode : Decoder α) (ending : Option Fault) :
    List Reading → Result (List α)
  | [] => (report ending).map fun _ => []
  | item :: rest => do
      let value ← decode item
      let values ← readItems decode ending rest
      .ok (value :: values)

def readList {α : Type} (decode : Decoder α) : Decoder (List α)
  | .array items ending => readItems decode ending items
  | other => other.unfit

/-- Reads the members of an object in turn, with their keys. -/
def readEntries {α : Type} (decode : Decoder α) (ending : Option Fault) :
    List (Reading × Reading) → Result (List (String × α))
  | [] => (report ending).map fun _ => []
  | (key, item) :: rest => do
      let name ← key.key
      let value ← decode item
      let values ← readEntries decode ending rest
      .ok ((name, value) :: values)

/-- Reads an object of any keys. -/
def readMap {α : Type} (decode : Decoder α) : Decoder (List (String × α))
  | .object members ending => readEntries decode ending members
  | other => other.unfit

/-! ## Names of alternatives -/

def oneOf (names : List String) (name : String) : Result String :=
  if name ∈ names then .ok name else .error .mismatch

/-- Reads the name of an alternative without contents: as text, or as an
object whose only member has this name and is null. -/
def readName (names : List String) : Decoder String
  | .text name => oneOf names name
  | .brokenText read _ => .error (.fault read)
  | .absent => .error (.fault .cutShort)
  | .object [] ending => do
      report ending
      .error (.fault .malformed)
  | .object ((key, value) :: rest) ending => do
      let name ← key.key
      let name ← oneOf names name
      readNull value
      if rest.isEmpty then do
        report ending
        .ok name
      else .error (.fault .malformed)
  | _ => .error (.fault .malformed)

/-! ## Records -/

/-- One field of a record that is being read into a partial record `σ`. -/
structure RecordField (σ : Type) where
  name : String
  isSet : σ → Bool
  /-- Reads the value of the field into the partial record. -/
  load : σ → Reading → Result σ
  /-- Whether the field may be missing at the end of an array. -/
  mayLack : Bool

/-- A field that is kept in an optional slot. -/
def RecordField.slot {σ α : Type} (name : String) (get : σ → Option α) (set : σ → α → σ)
    (decode : Decoder α) : RecordField σ where
  name := name
  isSet part := (get part).isSome
  load part reading := (decode reading).map (set part)
  mayLack := false

/-- A field that an array need not reach. -/
def RecordField.orLack {σ : Type} (field : RecordField σ) : RecordField σ :=
  { field with mayLack := true }

/-- Reads the members of an object into a partial record. -/
def loadMembers {σ : Type} (fields : List (RecordField σ)) (ending : Option Fault) :
    σ → List (Reading × Reading) → Result σ
  | part, [] => (report ending).map fun _ => part
  | part, (key, value) :: rest => do
      let name ← key.key
      match fields.find? (·.name = name) with
      | none => do
          value.skip
          loadMembers fields ending part rest
      | some field =>
          if field.isSet part then .error .mismatch
          else do
            let part ← field.load part value
            loadMembers fields ending part rest

/-- Reads the items of an array into a partial record. -/
def loadItems {σ : Type} (ending : Option Fault) :
    List (RecordField σ) → σ → List Reading → Result σ
  | [], part, [] => (report ending).map fun _ => part
  | [], _, _ :: _ => .error (.fault .malformed)
  | field :: fields, part, item :: rest => do
      let part ← field.load part item
      loadItems ending fields part rest
  | field :: fields, part, [] => do
      report ending
      if field.mayLack then loadItems ending fields part [] else .error .mismatch

/-- Reads a record: its fields into a partial record, and this into the whole. -/
def readRecord {σ α : Type} (fields : List (RecordField σ)) (blank : σ)
    (finish : σ → Option α) : Decoder α
  | .object members ending => do
      let part ← loadMembers fields ending blank members
      (finish part).elim (.error .mismatch) .ok
  | .array items ending => do
      let part ← loadItems ending fields blank items
      (finish part).elim (.error .mismatch) .ok
  | other => other.unfit

end ChatFlow.Json

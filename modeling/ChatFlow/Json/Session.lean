import ChatFlow.Json.Program
import ChatFlow.Session.Basic
import ChatFlow.Stamp.Timestamp
import ChatFlow.Stamp.Uuid

/-!
# Conversations as JSON

Turns are kept with an identifier and the time they were made.  The buttons
of a turn are left out if it shows no node, so a node without buttons stays
distinct.  A phase carries its kind among its members; an intent keeps its
contents in a member beside its kind.
-/

namespace ChatFlow

open Json (Value Decoder RecordField Reading Result ReadError)

/-- A turn as it is kept: with an identifier and the time it was made. -/
structure StampedTurn where
  id : Uuid
  turn : Turn
  time : Timestamp
deriving DecidableEq, Repr

/-! ## Origins -/

def Origin.label : Origin → String
  | .bot => "bot"
  | .user => "user"

def Origin.ofJson : Decoder Origin := fun reading =>
  (Json.readName ["bot", "user"] reading).map fun name =>
    if name = "bot" then .bot else .user

/-! ## Turns -/

def StampedTurn.toJson (stamped : StampedTurn) : Value :=
  let buttons := stamped.turn.buttons?.toList.map fun buttons =>
    ("buttons", Value.array (buttons.map Button.toJson))
  .object
    ([("id", .text stamped.id.text), ("text", .text stamped.turn.text),
        ("origin", .text stamped.turn.origin.label)] ++ buttons ++
      [("timestamp", .text stamped.time.text)])

/-- Reads a value that is written as text in a form of its own. -/
def Json.readWritten {α : Type} (ofText? : String → Option α) : Decoder α := fun reading => do
  (ofText? (← Json.readText reading)).elim (.error .mismatch) .ok

structure PartialTurn where
  id? : Option Uuid := none
  text? : Option String := none
  origin? : Option Origin := none
  buttons? : Option (Option (List Button)) := none
  time? : Option Timestamp := none

def PartialTurn.fields : List (RecordField PartialTurn) :=
  [.slot "id" id? ({ · with id? := some · }) (Json.readWritten Uuid.ofText?),
    .slot "text" text? ({ · with text? := some · }) Json.readText,
    .slot "origin" origin? ({ · with origin? := some · }) Origin.ofJson,
    (RecordField.slot "buttons" buttons? ({ · with buttons? := some · })
      (Json.readOption (Json.readList Button.ofJson))).orLack,
    .slot "timestamp" time? ({ · with time? := some · })
      (Json.readWritten Timestamp.ofText?)]

def PartialTurn.finish (part : PartialTurn) : Option StampedTurn := do
  some ⟨← part.id?, ⟨← part.text?, ← part.origin?, part.buttons?.join⟩, ← part.time?⟩

def StampedTurn.ofJson : Decoder StampedTurn :=
  Json.readRecord PartialTurn.fields {} PartialTurn.finish

/-! ## Transcripts -/

def Transcript.toJson (transcript : Transcript StampedTurn) : Value :=
  .object
    [("turns", .array (transcript.turns.map StampedTurn.toJson)),
      ("visible_window", .natural transcript.window.toNat)]

structure PartialTranscript where
  turns? : Option (List StampedTurn) := none
  window? : Option UInt64 := none

def PartialTranscript.fields : List (RecordField PartialTranscript) :=
  [.slot "turns" turns? ({ · with turns? := some · }) (Json.readList StampedTurn.ofJson),
    .slot "visible_window" window? ({ · with window? := some · }) Json.readUnsigned]

def PartialTranscript.finish (part : PartialTranscript) :
    Option (Transcript StampedTurn) := do
  some ⟨← part.turns?, ← part.window?⟩

def Transcript.ofJson : Decoder (Transcript StampedTurn) :=
  Json.readRecord PartialTranscript.fields {} PartialTranscript.finish

/-! ## Phases -/

def Phase.toJson : Phase → Value
  | .idle => .object [("t", .text "Idle")]
  | .running flow => .object [("t", .text "Running"), ("flow", .text flow)]
  | .awaiting prior? =>
      .object
        [("t", .text "AwaitingFreeText"),
          ("prior_flow", prior?.elim .null Value.text)]

namespace Phase

def kinds : List String :=
  ["Idle", "Running", "AwaitingFreeText"]

/-- The phase of a kind, from the members beside the kind or from the items
after it; anything unfit in them is a mismatch. -/
def ofContents (kind : String) (contents : Reading) : Result Phase :=
  let phase? : Result Phase :=
    if kind = "Idle" then
      match contents with
      | .array (_ :: _) _ => .error .mismatch
      | _ => .ok .idle
    else if kind = "Running" then
      Json.readRecord
        [.slot "flow" (fun part : Option String => part) (fun _ flow => some flow)
          Json.readText]
        none (·.map .running) contents
    else
      Json.readRecord
        [.slot "prior_flow" (fun part : Option (Option String) => part)
          (fun _ prior? => some prior?) (Json.readOption Json.readText)]
        none (fun part => some (.awaiting part.join)) contents
  phase?.mapError fun _ => .mismatch

/-- Takes the kind out of the members of an object; the others are read as
values of any shape, inside the given number of containers. -/
def splitKind (depth : Nat) (kind? : Option String)
    (others : List (Reading × Reading)) :
    List (Reading × Reading) → Result (Option String × List (Reading × Reading))
  | [] => .ok (kind?, others.reverse)
  | (key, value) :: rest => do
      let name ← key.key
      if name = "t" then
        if kind?.isSome then .error .mismatch
        else do
          let text ← Json.readText value
          let kind ← Json.oneOf kinds text
          splitKind depth (some kind) others rest
      else do
        value.readAny depth
        splitKind depth kind? ((key, value) :: others) rest

/-- Reads a phase inside the given number of containers. -/
def ofJson (depth : Nat) : Decoder Phase
  | .object members ending => do
      let (kind?, others) ← splitKind (depth + 1) none [] members
      Json.report ending
      match kind? with
      | some kind => ofContents kind (.object others none)
      | none => .error .mismatch
  | .array [] ending => do
      Json.report ending
      .error .mismatch
  | .array (first :: rest) ending => do
      let text ← Json.readText first
      let kind ← Json.oneOf kinds text
      Reading.readAnyItems (depth + 1) rest
      Json.report ending
      ofContents kind (.array rest none)
  | other => other.unfit

end Phase

/-! ## Conversations -/

def Conversation.toJson (conversation : Conversation StampedTurn) : Value :=
  .object
    [("phase", conversation.phase.toJson),
      ("transcript", conversation.transcript.toJson)]

structure PartialConversation where
  phase? : Option Phase := none
  transcript? : Option (Transcript StampedTurn) := none

def PartialConversation.fields : List (RecordField PartialConversation) :=
  [.slot "phase" phase? ({ · with phase? := some · }) (Phase.ofJson 1),
    .slot "transcript" transcript? ({ · with transcript? := some · }) Transcript.ofJson]

def PartialConversation.finish (part : PartialConversation) :
    Option (Conversation StampedTurn) := do
  some ⟨← part.phase?, ← part.transcript?⟩

def Conversation.ofJson : Decoder (Conversation StampedTurn) :=
  Json.readRecord PartialConversation.fields {} PartialConversation.finish

/-! ## Intents -/

def Intent.toJson : Intent → Value
  | .press target => .object [("t", .text "Press"), ("v", .text target)]
  | .text said => .object [("t", .text "Text"), ("v", .text said)]
  | .restart => .object [("t", .text "Restart")]

namespace Intent

def kinds : List String :=
  ["Press", "Text", "Restart"]

/-- Reads the contents of an intent of some kind. -/
def ofContents (kind : String) (contents : Reading) : Result Intent :=
  if kind = "Press" then (Json.readText contents).map .press
  else if kind = "Text" then (Json.readText contents).map .text
  else (Json.readNull contents).map fun _ => .restart

/-- An intent without contents. -/
def bare (kind : String) : Result Intent :=
  if kind = "Restart" then .ok .restart else .error .mismatch

/-- How far the members of an object were read. -/
inductive Seen
  | nothing
  | kind (kind : String)
  /-- The contents came before the kind. -/
  | contents (contents : Reading)
  | all (intent : Intent)

/-- Reads the members of an object in turn: the kind and the contents may
come in either order, but only once. -/
def loadMembers : Seen → List (Reading × Reading) → Result Seen
  | seen, [] => .ok seen
  | seen, (key, value) :: rest => do
      let name ← key.key
      if name = "t" then
        match seen with
        | .nothing => do
            let kind ← Json.readName kinds value
            loadMembers (.kind kind) rest
        | .contents contents => do
            let kind ← Json.readName kinds value
            let intent ← (ofContents kind contents).mapError fun _ => .mismatch
            loadMembers (.all intent) rest
        | _ => .error .mismatch
      else if name = "v" then
        match seen with
        | .nothing => do
            value.readAny 1
            loadMembers (.contents value) rest
        | .kind kind => do
            let intent ← ofContents kind value
            loadMembers (.all intent) rest
        | _ => .error .mismatch
      else do
        value.skip
        loadMembers seen rest

/-- Reads the kind where it has no key in front of it. -/
def readKind : Decoder String :=
  fun reading => (Json.readText reading).bind (Json.oneOf kinds)

/-- Reads an intent from an object, or from an array of its kind and its
contents. -/
def ofJson : Decoder Intent
  | .object members ending => do
      let seen ← loadMembers .nothing members
      Json.report ending
      match seen with
      | .all intent => .ok intent
      | .kind kind => bare kind
      | _ => .error .mismatch
  | .array [] ending => do
      Json.report ending
      .error .mismatch
  | .array [first] ending => do
      let _ ← readKind first
      Json.report ending
      .error .mismatch
  | .array (first :: second :: rest) ending => do
      let kind ← readKind first
      let intent ← ofContents kind second
      if rest.isEmpty then do
        Json.report ending
        .ok intent
      else .error (.fault .malformed)
  | other => other.unfit

end Intent

end ChatFlow

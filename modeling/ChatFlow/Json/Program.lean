import ChatFlow.Json.Decode
import ChatFlow.Json.Value
import ChatFlow.Program

/-!
# Programs as JSON

A program is written as its map of flows, in the order of their names.  When
one is read, the last of two flows under one key wins, and the key a node is
filed under need not be the name inside it.
-/

namespace ChatFlow

open Json (Value Decoder RecordField)

/-! ## Buttons -/

def Button.toJson (button : Button) : Value :=
  .object [("label", .text button.label), ("targetFlow", .text button.target)]

structure PartialButton where
  label? : Option String := none
  target? : Option String := none

def PartialButton.fields : List (RecordField PartialButton) :=
  [.slot "label" label? ({ · with label? := some · }) Json.readText,
    .slot "targetFlow" target? ({ · with target? := some · }) Json.readText]

def PartialButton.finish (part : PartialButton) : Option Button := do
  some ⟨← part.label?, ← part.target?⟩

def Button.ofJson : Decoder Button :=
  Json.readRecord PartialButton.fields {} PartialButton.finish

/-! ## Nodes -/

def Node.toJson (node : Node) : Value :=
  .object
    [("name", .text node.name), ("message", .text node.message),
      ("buttons", .array (node.buttons.map Button.toJson))]

structure PartialNode where
  name? : Option String := none
  message? : Option String := none
  buttons? : Option (List Button) := none

def PartialNode.fields : List (RecordField PartialNode) :=
  [.slot "name" name? ({ · with name? := some · }) Json.readText,
    .slot "message" message? ({ · with message? := some · }) Json.readText,
    .slot "buttons" buttons? ({ · with buttons? := some · })
      (Json.readList Button.ofJson)]

def PartialNode.finish (part : PartialNode) : Option Node := do
  some ⟨← part.name?, ← part.message?, ← part.buttons?⟩

def Node.ofJson : Decoder Node :=
  Json.readRecord PartialNode.fields {} PartialNode.finish

/-! ## Programs -/

def Program.toJson (program : Program) : Value :=
  .object
    [("flows", .object (program.flows.entries.map fun (name, node) => (name, node.toJson)))]

structure PartialProgram where
  flows? : Option (NameMap Node) := none

def PartialProgram.fields : List (RecordField PartialProgram) :=
  [.slot "flows" flows? ({ · with flows? := some · }) fun reading =>
    (Json.readMap Node.ofJson reading).map NameMap.ofList]

def PartialProgram.finish (part : PartialProgram) : Option Program := do
  some ⟨← part.flows?⟩

def Program.ofJson : Decoder Program :=
  Json.readRecord PartialProgram.fields {} PartialProgram.finish

end ChatFlow

import ChatFlow.Json.Program
import ChatFlow.Proofs.Json.Decoded

/-!
# Programs are read back from their text

Neither layout of a program's text loses anything: not the order of buttons,
not a key that differs from the name inside its node, and no character of any
name, message or label.
-/

namespace ChatFlow

open Json (Value ReadsBack loadMembers_cons readRecord_object)

theorem Button.readsBack : ReadsBack Button.toJson Button.ofJson where
  fits _ := ⟨trivial, trivial, trivial⟩
  decode_reading button := by
    have hfinish : PartialButton.finish ⟨some button.label, some button.target⟩ = some button :=
      rfl
    refine readRecord_object hfinish ?_
    refine loadMembers_cons rfl rfl (ReadsBack.text.load_slot _ button.label) ?_
    exact loadMembers_cons rfl rfl (ReadsBack.text.load_slot _ button.target) rfl

theorem Node.readsBack : ReadsBack Node.toJson Node.ofJson where
  fits node := ⟨trivial, trivial, Button.readsBack.list.fits node.buttons, trivial⟩
  decode_reading node := by
    have hfinish : PartialNode.finish
        ⟨some node.name, some node.message, some node.buttons⟩ = some node := rfl
    refine readRecord_object hfinish ?_
    refine loadMembers_cons rfl rfl (ReadsBack.text.load_slot _ node.name) ?_
    refine loadMembers_cons rfl rfl (ReadsBack.text.load_slot _ node.message) ?_
    exact loadMembers_cons rfl rfl (Button.readsBack.list.load_slot _ node.buttons) rfl

theorem Program.readsBack : ReadsBack Program.toJson Program.ofJson where
  fits program := ⟨Node.readsBack.nameMap.fits program.flows, trivial⟩
  decode_reading program := by
    have hfinish : PartialProgram.finish ⟨some program.flows⟩ = some program := rfl
    refine readRecord_object hfinish ?_
    exact loadMembers_cons rfl rfl (Node.readsBack.nameMap.load_slot _ program.flows) rfl

/-- A program is read back from its compact text and from its text laid out,
so no other program has the same text. -/
theorem Program.read_program_written (program : Program) :
    Json.read Program.ofJson program.toJson.render = .ok program ∧
      Json.read Program.ofJson program.toJson.pretty = .ok program ∧
      ∀ other : Program, other.toJson.render = program.toJson.render ↔ other = program :=
  ⟨readsBack.read_render program, readsBack.read_pretty program,
    fun _ => readsBack.render_eq_iff⟩

end ChatFlow

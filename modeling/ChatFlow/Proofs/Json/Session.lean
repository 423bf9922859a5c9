import ChatFlow.Json.Session
import ChatFlow.Proofs.Json.Program
import ChatFlow.Proofs.Stamp.Written

/-!
# Conversations and intents are read back from their text

Each alternative leaves a trace of its own in the text: the kind of a phase or
an intent among its members, and the member for buttons where a turn shows a
node.  So no two conversations, and no two intents, are written alike.
-/

namespace ChatFlow

open Json (Value ReadsBack loadMembers_cons readRecord_object)

/-! ## Turns -/

/-- What is written in a form of its own is read back if its form is. -/
theorem Json.ReadsBack.written {α : Type} {text : α → String} {ofText? : String → Option α}
    (hback : ∀ item, ofText? (text item) = some item) :
    ReadsBack (fun item => .text (text item)) (readWritten ofText?) where
  fits _ := trivial
  decode_reading item := by
    simp only [Value.reading, readWritten, readText, bind, Except.bind, hback item, Option.elim]

theorem Origin.readsBack : ReadsBack (fun origin => .text origin.label) Origin.ofJson where
  fits _ := trivial
  decode_reading origin := by
    cases origin with
    | bot => rfl
    | user => rfl

theorem StampedTurn.readsBack : ReadsBack StampedTurn.toJson StampedTurn.ofJson where
  fits stamped := by
    obtain ⟨id, ⟨text, origin, buttons?⟩, time⟩ := stamped
    cases buttons? with
    | none => exact ⟨trivial, trivial, trivial, trivial, trivial⟩
    | some buttons =>
        exact ⟨trivial, trivial, trivial, Button.readsBack.list.fits buttons, trivial, trivial⟩
  decode_reading stamped := by
    obtain ⟨id, ⟨text, origin, buttons?⟩, time⟩ := stamped
    have hid := ReadsBack.written Uuid.ofText?_text
    have htime := ReadsBack.written Timestamp.ofText?_text
    have hbuttons := Button.readsBack.list.option fun buttons => by simp [Value.reading]
    -- The member for buttons is there or not.
    cases buttons? with
    | none =>
        have hfinish : PartialTurn.finish ⟨some id, some text, some origin, none, some time⟩ =
            some ⟨id, ⟨text, origin, none⟩, time⟩ := rfl
        refine readRecord_object hfinish ?_
        refine loadMembers_cons rfl rfl (hid.load_slot _ id) ?_
        refine loadMembers_cons rfl rfl (ReadsBack.text.load_slot _ text) ?_
        refine loadMembers_cons rfl rfl (Origin.readsBack.load_slot _ origin) ?_
        exact loadMembers_cons rfl rfl (htime.load_slot _ time) rfl
    | some buttons =>
        have hfinish : PartialTurn.finish
            ⟨some id, some text, some origin, some (some buttons), some time⟩ =
              some ⟨id, ⟨text, origin, some buttons⟩, time⟩ := rfl
        refine readRecord_object hfinish ?_
        refine loadMembers_cons rfl rfl (hid.load_slot _ id) ?_
        refine loadMembers_cons rfl rfl (ReadsBack.text.load_slot _ text) ?_
        refine loadMembers_cons rfl rfl (Origin.readsBack.load_slot _ origin) ?_
        refine loadMembers_cons rfl rfl (hbuttons.load_orLack _ (some buttons)) ?_
        exact loadMembers_cons rfl rfl (htime.load_slot _ time) rfl

/-! ## Conversations -/

theorem Transcript.readsBack : ReadsBack Transcript.toJson Transcript.ofJson where
  fits transcript :=
    ⟨StampedTurn.readsBack.list.fits transcript.turns,
      ReadsBack.unsigned.fits transcript.window, trivial⟩
  decode_reading transcript := by
    have hfinish : PartialTranscript.finish ⟨some transcript.turns, some transcript.window⟩ =
        some transcript := rfl
    refine readRecord_object hfinish ?_
    refine loadMembers_cons rfl rfl
      (StampedTurn.readsBack.list.load_slot _ transcript.turns) ?_
    exact loadMembers_cons rfl rfl (ReadsBack.unsigned.load_slot _ transcript.window) rfl

/-- A phase is read back inside any number of containers, as it holds none. -/
theorem Phase.readsBack (depth : Nat) : ReadsBack Phase.toJson (Phase.ofJson depth) where
  fits phase := by
    cases phase with
    | idle => exact ⟨trivial, trivial⟩
    | running flow => exact ⟨trivial, trivial, trivial⟩
    | awaiting prior? =>
        cases prior? with
        | none => exact ⟨trivial, trivial, trivial⟩
        | some prior => exact ⟨trivial, trivial, trivial⟩
  decode_reading phase := by
    cases phase with
    | idle => rfl
    | running flow => rfl
    | awaiting prior? =>
        cases prior? with
        | none => rfl
        | some prior => rfl

theorem Conversation.readsBack : ReadsBack Conversation.toJson Conversation.ofJson where
  fits conversation :=
    ⟨(Phase.readsBack 1).fits conversation.phase,
      Transcript.readsBack.fits conversation.transcript, trivial⟩
  decode_reading conversation := by
    have hfinish : PartialConversation.finish
        ⟨some conversation.phase, some conversation.transcript⟩ = some conversation := rfl
    refine readRecord_object hfinish ?_
    refine loadMembers_cons rfl rfl ((Phase.readsBack 1).load_slot _ conversation.phase) ?_
    exact loadMembers_cons rfl rfl (Transcript.readsBack.load_slot _ conversation.transcript) rfl

/-! ## Intents -/

theorem Intent.readsBack : ReadsBack Intent.toJson Intent.ofJson where
  fits intent := by
    cases intent with
    | press target => exact ⟨trivial, trivial, trivial⟩
    | text said => exact ⟨trivial, trivial, trivial⟩
    | restart => exact ⟨trivial, trivial⟩
  decode_reading intent := by
    cases intent with
    | press target => rfl
    | text said => rfl
    | restart => rfl

/-- A conversation and an intent are read back from their compact text and from
their text laid out, so no other conversation or intent has the same text. -/
theorem Conversation.read_session_written (conversation : Conversation StampedTurn)
    (intent : Intent) :
    (Json.read Conversation.ofJson conversation.toJson.render = .ok conversation ∧
      Json.read Conversation.ofJson conversation.toJson.pretty = .ok conversation ∧
      ∀ other : Conversation StampedTurn,
        other.toJson.render = conversation.toJson.render ↔ other = conversation) ∧
    (Json.read Intent.ofJson intent.toJson.render = .ok intent ∧
      Json.read Intent.ofJson intent.toJson.pretty = .ok intent ∧
      ∀ other : Intent, other.toJson.render = intent.toJson.render ↔ other = intent) := by
  refine ⟨⟨readsBack.read_render conversation, readsBack.read_pretty conversation,
    fun other => readsBack.render_eq_iff⟩, ?_⟩
  exact ⟨Intent.readsBack.read_render intent, Intent.readsBack.read_pretty intent,
    fun other => Intent.readsBack.render_eq_iff⟩

end ChatFlow

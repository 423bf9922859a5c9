import ChatFlow.Session.Transcript
import ChatFlow.Text.Placeholder

/-!
# Options of a session

A session needs three messages that are not part of its program, and the
window of its transcript.
-/

namespace ChatFlow

structure Messages where
  /-- Asks for the user's name when a human is wanted. -/
  handoffPrompt : String := "Para falar com um atendente, por favor digite seu nome."
  /-- Confirms the name, which stands where the placeholder is. -/
  captureConfirmation : String :=
    "Obrigado, {name}! Um atendente vai continuar a conversa em instantes."
  /-- Answers a button that leads nowhere. -/
  fallback : String := "Desculpe, não consegui processar sua solicitação."
deriving DecidableEq, Repr

/-- The confirmation for a name. -/
def Messages.confirmation (messages : Messages) (name : String) : String :=
  String.ofList (Text.fillIn name.toList messages.captureConfirmation.toList)

structure Options where
  messages : Messages := {}
  window : UInt64 := defaultWindow
deriving DecidableEq, Repr

end ChatFlow

/-!
# Notes on skipped constructs

Compiling never fails.  What does not fit the language is skipped, and a note
on its line says why.
-/

namespace ChatFlow.Source

/-- Why a construct was skipped, or what it replaced. -/
inductive Cause
  /-- The line is no construct of the language. -/
  | unrecognized (text : String)
  /-- Message text outside a message block. -/
  | looseText
  /-- A button outside a button block. -/
  | looseButton
  /-- The flow opened on this line has no message and was not kept. -/
  | emptyFlow (name : String)
  /-- The flow opened on this line took the place of an earlier one. -/
  | redefinition (name : String)
deriving DecidableEq, Repr

def Cause.message : Cause → String
  | .unrecognized text => "unrecognized line ignored: " ++ text
  | .looseText => "quoted text outside a 'mensagem:' block ignored"
  | .looseButton => "button outside a 'botao N:' block ignored"
  | .emptyFlow name => "flow '" ++ name ++ "' has no message and was dropped"
  | .redefinition name => "flow '" ++ name ++ "' redefines an earlier flow"

structure Note where
  line : Nat
  cause : Cause
deriving DecidableEq, Repr

end ChatFlow.Source

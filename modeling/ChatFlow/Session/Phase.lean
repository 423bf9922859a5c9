import ChatFlow.Session.Transcript

/-!
# State of a conversation

A conversation is idle, shows a flow, or waits for the name of a user who
asked for a human.  While it waits it remembers the flow to come back to.
-/

namespace ChatFlow

inductive Phase
  /-- Nothing is shown, since no entry was found. -/
  | idle
  | running (flow : String)
  /-- The next text is taken as a name; `prior?` is the flow shown before. -/
  | awaiting (prior? : Option String)
deriving DecidableEq, Repr, Inhabited

namespace Phase

/-- The flow being shown; while a name is awaited, the flow to come back to. -/
def flow? : Phase → Option String
  | .idle => none
  | .running flow => some flow
  | .awaiting prior? => prior?

def isAwaiting : Phase → Bool
  | .awaiting _ => true
  | _ => false

/-- The phase in which a flow, if any, is shown. -/
def ofFlow? : Option String → Phase
  | none => .idle
  | some flow => .running flow

@[simp] theorem flow?_ofFlow? (flow? : Option String) : (ofFlow? flow?).flow? = flow? := by
  cases flow? <;> rfl

end Phase

/-- Everything that one conversation owns. -/
structure Conversation (τ : Type) where
  phase : Phase := .idle
  transcript : Transcript τ := {}
deriving DecidableEq, Repr

end ChatFlow

import ChatFlow.Program

/-!
# Turns of a conversation

A turn is a text said by the bot or by the user.  A bot turn that shows a
node keeps the buttons offered with it, also when the node has none; other
turns offer nothing.
-/

namespace ChatFlow

inductive Origin
  | bot
  | user
deriving DecidableEq, Repr, Inhabited

structure Turn where
  text : String
  origin : Origin
  /-- The buttons of the node that the turn shows. -/
  buttons? : Option (List Button)
deriving DecidableEq, Repr, Inhabited

namespace Turn

/-- A bot turn that shows a node. -/
def ofNode (node : Node) : Turn :=
  ⟨node.message, .bot, some node.buttons⟩

/-- A bot turn that shows no node. -/
def say (text : String) : Turn :=
  ⟨text, .bot, none⟩

def user (text : String) : Turn :=
  ⟨text, .user, none⟩

def isBot (turn : Turn) : Bool :=
  turn.origin = .bot

/-- The buttons offered with the turn. -/
def offered (turn : Turn) : List Button :=
  turn.buttons?.getD []

end Turn

end ChatFlow

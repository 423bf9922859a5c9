/-!
# Names of flows

A flow name is a non-empty run of ASCII letters, digits and underscores.  Two
names are reserved: the flow where every conversation starts, and the button
target that hands the conversation over to a human.
-/

namespace ChatFlow

/-- The flow that opens a conversation. -/
def entryName : String := "inicio"

/-- The button target that asks for a human attendant; it needs no flow. -/
def handoffTarget : String := "atendimento_humano"

def isNameChar (c : Char) : Bool :=
  c.isAlphanum || c == '_'

/-- Non-empty, and all ASCII letters, digits and underscores. -/
def isIdentifier (text : List Char) : Bool :=
  !text.isEmpty && text.all isNameChar

theorem isIdentifier_iff {text : List Char} :
    isIdentifier text = true ↔ text ≠ [] ∧ ∀ c ∈ text, isNameChar c = true := by
  cases text <;> simp [isIdentifier]

end ChatFlow

/-!
# Transcripts

A transcript lists every turn of a conversation, oldest first.  Usually only
its end is shown: as many turns as its window holds.
-/

namespace ChatFlow

/-- How many turns are shown if nothing else is asked for. -/
def defaultWindow : UInt64 := 50

structure Transcript (τ : Type) where
  turns : List τ := []
  window : UInt64 := defaultWindow
deriving DecidableEq, Repr

namespace Transcript

variable {τ : Type}

def push (transcript : Transcript τ) (turn : τ) : Transcript τ :=
  { transcript with turns := transcript.turns ++ [turn] }

def size (transcript : Transcript τ) : Nat :=
  transcript.turns.length

def isEmpty (transcript : Transcript τ) : Bool :=
  transcript.turns.isEmpty

def last? (transcript : Transcript τ) : Option τ :=
  transcript.turns.getLast?

/-- The last turns, as many as the window holds. -/
def visible (transcript : Transcript τ) : List τ :=
  transcript.turns.drop (transcript.turns.length - transcript.window.toNat)

@[simp] theorem turns_push (transcript : Transcript τ) (turn : τ) :
    (transcript.push turn).turns = transcript.turns ++ [turn] := rfl

@[simp] theorem window_push (transcript : Transcript τ) (turn : τ) :
    (transcript.push turn).window = transcript.window := rfl

theorem visible_suffix (transcript : Transcript τ) :
    transcript.visible <:+ transcript.turns :=
  List.drop_suffix _ _

theorem length_visible (transcript : Transcript τ) :
    transcript.visible.length =
      min transcript.turns.length transcript.window.toNat := by
  rw [visible, List.length_drop]
  omega

/-- What is visible ends like the transcript, unless the window holds nothing. -/
theorem getLast?_visible {transcript : Transcript τ} (hwindow : transcript.window ≠ 0) :
    transcript.visible.getLast? = transcript.turns.getLast? := by
  have hpositive : 0 < transcript.window.toNat :=
    Nat.pos_of_ne_zero fun hzero => hwindow (UInt64.toNat_inj.mp hzero)
  rw [visible, List.getLast?_drop]
  split
  next hshort =>
    have hnone : transcript.turns.length = 0 := by omega
    rw [List.length_eq_zero_iff.mp hnone]
    rfl
  next => rfl

end Transcript

end ChatFlow

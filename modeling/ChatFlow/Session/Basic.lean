import ChatFlow.Session.Options
import ChatFlow.Session.Phase
import ChatFlow.Session.Turn
import ChatFlow.Text.Blank

/-!
# Sessions

A session carries one conversation over a program.  The program is read only
when a turn is made from it, so another program can be put in its place at
any time without touching the conversation.
-/

namespace ChatFlow

/-- Why an action of the user was not taken; nothing was recorded then. -/
inductive Refusal
  /-- The text was empty or all white space. -/
  | emptyText
deriving DecidableEq, Repr

def Refusal.message : Refusal → String
  | .emptyText => "message text is empty"

/-- An action of the user. -/
inductive Intent
  /-- A button with this target was pressed. -/
  | press (target : String)
  | text (text : String)
  | restart
deriving DecidableEq, Repr

structure Session where
  program : Program
  options : Options
  conversation : Conversation Turn
deriving DecidableEq, Repr

namespace Session

def phase (session : Session) : Phase :=
  session.conversation.phase

def transcript (session : Session) : Transcript Turn :=
  session.conversation.transcript

def turns (session : Session) : List Turn :=
  session.transcript.turns

/-- The session with one more turn, in the given phase. -/
def record (session : Session) (turn : Turn) (phase : Phase) : Session :=
  { session with
    conversation := { phase, transcript := session.conversation.transcript.push turn } }

/-- A new conversation, which shows the entry if the program has one. -/
def start (program : Program) (options : Options) : Session :=
  let blank : Session := ⟨program, options, { transcript := { window := options.window } }⟩
  match program.entry? with
  | some entry => blank.record (.ofNode entry) (.running entry.name)
  | none => blank

/-- Starts over with the same program and options. -/
def restart (session : Session) : Session :=
  start session.program session.options

/-- Puts another program in place; the conversation goes on as it is. -/
def reload (session : Session) (program : Program) : Session :=
  { session with program }

/-- The turn that a press makes and the phase it leads to: the handoff asks
for a name, a flow is shown, and any other target only gets the fallback. -/
def response (session : Session) (target : String) : Turn × Phase :=
  if target = handoffTarget then
    (.say session.options.messages.handoffPrompt, .awaiting session.phase.flow?)
  else match session.program.get? target with
    | some node => (.ofNode node, .running node.name)
    | none => (.say session.options.messages.fallback, session.phase)

/-- Presses a button with the given target. -/
def press (session : Session) (target : String) : Session :=
  let (turn, phase) := session.response target
  session.record turn phase

/-- The session after the user said something.  An awaited name is confirmed, and
the session comes back to the flow shown before. -/
def receive (session : Session) (said : String) : Session :=
  let heard := session.record (.user said) session.phase
  match session.phase with
  | .awaiting prior? =>
      heard.record (.say (session.options.messages.confirmation said)) (.ofFlow? prior?)
  | _ => heard

/-- The turns of a later session that come after those of this one. -/
def added (session later : Session) : List Turn :=
  later.turns.drop session.turns.length

/-- Submits text without the white space around it: the session after it, and
the turns it made or why it was not taken. -/
def submit (session : Session) (text : String) : Session × Except Refusal (List Turn) :=
  let said := Text.trimmed text
  if said.isEmpty then (session, .error .emptyText)
  else
    let next := session.receive said
    (next, .ok (session.added next))

/-- Takes an action: the session after it, and the turns it made or why it was
not taken.  A restart answers with all turns of the new conversation. -/
def act (session : Session) (intent : Intent) : Session × Except Refusal (List Turn) :=
  match intent with
  | .press target =>
      let next := session.press target
      (next, .ok (session.added next))
  | .text text => session.submit text
  | .restart => (session.restart, .ok session.restart.turns)

/-- Whether the program has a flow to start with. -/
def hasEntry (session : Session) : Bool :=
  session.program.contains entryName

@[simp] theorem turns_record (session : Session) (turn : Turn) (phase : Phase) :
    (session.record turn phase).turns = session.turns ++ [turn] := rfl

@[simp] theorem phase_record (session : Session) (turn : Turn) (phase : Phase) :
    (session.record turn phase).phase = phase := rfl

@[simp] theorem program_record (session : Session) (turn : Turn) (phase : Phase) :
    (session.record turn phase).program = session.program := rfl

@[simp] theorem options_record (session : Session) (turn : Turn) (phase : Phase) :
    (session.record turn phase).options = session.options := rfl

end Session

end ChatFlow

import ChatFlow.Session.Basic

/-!
# Events of a session

A session changes when the user acts and when another program is put in its
place.  A run over a list of events is any order in which both can happen.
What one event does to a session is said once, by the moves of the session;
what holds throughout a run is shown by going through them.
-/

namespace ChatFlow

inductive Event
  | act (intent : Intent)
  | reload (program : Program)
deriving DecidableEq, Repr

/-- A press of the target gets the fallback: it does not ask for a human, and
no flow is filed under it. -/
def Program.FallsBack (program : Program) (target : String) : Prop :=
  target ≠ handoffTarget ∧ program.get? target = none

instance (program : Program) (target : String) : Decidable (program.FallsBack target) :=
  inferInstanceAs (Decidable (_ ∧ _))

namespace Session

/-- The session after an event, whether it is an action that is taken or one that
is refused. -/
def next (session : Session) : Event → Session
  | .act intent => (session.act intent).1
  | .reload program => session.reload program

def run (session : Session) (events : List Event) : Session :=
  events.foldl next session

/-- What an event can do to a session. -/
inductive Move (session : Session) : Event → Session → Prop
  | prompt :
      session.Move (.act (.press handoffTarget))
        (session.record (.say session.options.messages.handoffPrompt)
          (.awaiting session.phase.flow?))
  | enter {target : String} {node : Node} (htarget : target ≠ handoffTarget)
      (hnode : session.program.get? target = some node) :
      session.Move (.act (.press target)) (session.record (.ofNode node) (.running node.name))
  | fallback {target : String} (hfalls : session.program.FallsBack target) :
      session.Move (.act (.press target))
        (session.record (.say session.options.messages.fallback) session.phase)
  | refuse {text : String} (hempty : (Text.trimmed text).isEmpty = true) :
      session.Move (.act (.text text)) session
  | hear {text : String} (hsome : (Text.trimmed text).isEmpty = false)
      (hphase : session.phase.isAwaiting = false) :
      session.Move (.act (.text text))
        (session.record (.user (Text.trimmed text)) session.phase)
  | capture {text : String} {prior? : Option String}
      (hsome : (Text.trimmed text).isEmpty = false) (hphase : session.phase = .awaiting prior?) :
      session.Move (.act (.text text))
        ((session.record (.user (Text.trimmed text)) session.phase).record
          (.say (session.options.messages.confirmation (Text.trimmed text))) (.ofFlow? prior?))
  | restart : session.Move (.act .restart) session.restart
  | reload {program : Program} : session.Move (.reload program) (session.reload program)

theorem next_press (session : Session) (target : String) :
    session.next (.act (.press target)) = session.press target := rfl

theorem press_of_get? {session : Session} {target : String} {node : Node}
    (htarget : target ≠ handoffTarget) (hnode : session.program.get? target = some node) :
    session.press target = session.record (.ofNode node) (.running node.name) := by
  unfold press response
  rw [if_neg htarget, hnode]

theorem next_text (session : Session) (text : String) :
    session.next (.act (.text text)) = (session.submit text).1 := rfl

theorem move_next (session : Session) (event : Event) :
    session.Move event (session.next event) := by
  match event with
  | .act (.press target) =>
      rw [next_press]
      unfold press response
      by_cases htarget : target = handoffTarget
      · rw [if_pos htarget, htarget]
        exact .prompt
      · rw [if_neg htarget]
        cases hnode : session.program.get? target with
        | some node => exact .enter htarget hnode
        | none => exact .fallback ⟨htarget, hnode⟩
  | .act (.text text) =>
      rw [next_text]
      unfold submit
      dsimp only
      cases hempty : (Text.trimmed text).isEmpty with
      | true => exact .refuse hempty
      | false =>
          rw [if_neg (by simp)]
          unfold receive
          dsimp only
          cases hphase : session.phase with
          | awaiting prior? =>
              have hmove := Move.capture hempty hphase
              rwa [hphase] at hmove
          | _ =>
              have hmove := Move.hear hempty (by rw [hphase]; rfl)
              rwa [hphase] at hmove
  | .act .restart => exact .restart
  | .reload program => exact .reload

/-- A name that is awaited is logged and confirmed, and the flow kept for after it
is shown. -/
theorem next_text_of_awaiting {session : Session} {prior? : Option String}
    (hphase : session.phase = .awaiting prior?) {text : String}
    (hsome : (Text.trimmed text).isEmpty = false) :
    session.next (.act (.text text)) =
      (session.record (.user (Text.trimmed text)) session.phase).record
        (.say (session.options.messages.confirmation (Text.trimmed text)))
        (.ofFlow? prior?) := by
  have hmove := session.move_next (.act (.text text))
  generalize session.next (.act (.text text)) = after at hmove
  cases hmove with
  | refuse hempty => simp [hsome] at hempty
  | hear _ hother => simp [hphase, Phase.isAwaiting] at hother
  | @capture _ other? _ hother =>
      obtain rfl : prior? = other? := by simpa [hphase] using hother
      rfl

theorem program_start (program : Program) (options : Options) :
    (start program options).program = program ∧ (start program options).options = options := by
  unfold start
  dsimp only
  split <;> exact ⟨rfl, rfl⟩

/-- A new session shows the entry, if the program has one. -/
theorem phase_start (program : Program) (options : Options) :
    (start program options).phase = .ofFlow? (program.entry?.map (·.name)) := by
  unfold start
  dsimp only
  cases program.entry? <;> rfl

theorem turns_start (program : Program) (options : Options) :
    (start program options).turns = (program.entry?.map Turn.ofNode).toList := by
  unfold start
  dsimp only
  cases program.entry? <;> rfl

theorem program_next_act (session : Session) (intent : Intent) :
    (session.next (.act intent)).program = session.program := by
  have hmove := session.move_next (.act intent)
  generalize session.next (.act intent) = after at hmove
  cases hmove with
  | restart => exact (program_start session.program session.options).1
  | _ => rfl

theorem program_run_acts (session : Session) (intents : List Intent) :
    (session.run (intents.map .act)).program = session.program := by
  induction intents generalizing session with
  | nil => rfl
  | cons intent intents ih =>
      exact (ih (session.next (.act intent))).trans (session.program_next_act intent)

theorem options_next (session : Session) (event : Event) :
    (session.next event).options = session.options := by
  have hmove := session.move_next event
  generalize session.next event = after at hmove
  cases hmove with
  | restart => exact (program_start session.program session.options).2
  | _ => rfl

theorem options_run (session : Session) (events : List Event) :
    (session.run events).options = session.options := by
  induction events generalizing session with
  | nil => rfl
  | cons event events ih => exact (ih (session.next event)).trans (session.options_next event)

end Session

end ChatFlow

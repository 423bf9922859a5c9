import ChatFlow.Proofs.Session.Events
import Mathlib.Data.List.Forall2

/-!
# What a conversation takes from its program

An action looks at no more than one node of its program: the one under the
pressed target, or the entry when the conversation starts over.  If two programs
agree there, it makes no difference to the conversation which of them is loaded,
and one can be put in the place of the other before the action as well as after
it.  So two runs with programs of their own, put in place at times of their own,
keep the same conversation as long as the programs agree wherever an action
looks.  A restart forgets everything that came before it.
-/

namespace ChatFlow

/-- The flow that an action looks up in the program, if it looks one up. -/
def Intent.visited? : Intent → Option String
  | .press target => if target = handoffTarget then none else some target
  | .text _ => none
  | .restart => some entryName

namespace Program

def AgreesOn (program other : Program) (intent : Intent) : Prop :=
  ∀ name ∈ intent.visited?, program.get? name = other.get? name

instance (program other : Program) (intent : Intent) :
    Decidable (program.AgreesOn other intent) :=
  inferInstanceAs (Decidable (∀ name ∈ intent.visited?, _))

/-- The actions among the events, each with the program that is loaded when it
is taken. -/
def visits (program : Program) : List Event → List (Intent × Program)
  | [] => []
  | .act intent :: events => (intent, program) :: program.visits events
  | .reload other :: events => other.visits events

/-- The same action over programs that agree where it looks. -/
def SameVisit (visit other : Intent × Program) : Prop :=
  visit.1 = other.1 ∧ visit.2.AgreesOn other.2 visit.1

end Program

namespace Session

/-- What an action leads to: the conversation after it, and its answer. -/
structure Outcome where
  conversation : Conversation Turn
  answer : Except Refusal (List Turn)

def outcome (session : Session) (intent : Intent) : Outcome :=
  ⟨(session.next (.act intent)).conversation, (session.act intent).2⟩

/-- The outcomes of the actions among the events. -/
def outcomes (session : Session) : List Event → List Outcome
  | [] => []
  | .act intent :: events =>
      session.outcome intent :: (session.next (.act intent)).outcomes events
  | .reload program :: events => (session.reload program).outcomes events

/-! ## One action over two programs -/

section Reload

variable {session : Session} {program : Program}

theorem response_reload {target : String}
    (hagrees : program.AgreesOn session.program (.press target)) :
    (session.reload program).response target = session.response target := by
  unfold response
  by_cases htarget : target = handoffTarget
  · rw [if_pos htarget, if_pos htarget]
    rfl
  · have hnode : (session.reload program).program.get? target = session.program.get? target :=
      hagrees target (by simp [Intent.visited?, htarget])
    rw [if_neg htarget, if_neg htarget, hnode]
    rfl

theorem receive_reload (said : String) :
    (session.reload program).receive said = (session.receive said).reload program := by
  have hphase : (session.reload program).phase = session.phase := rfl
  unfold receive
  dsimp only
  rw [hphase]
  cases session.phase <;> rfl

theorem submit_reload (text : String) :
    (session.reload program).submit text = (session.submit text).map (·.reload program) id := by
  unfold submit
  dsimp only
  rw [receive_reload]
  split <;> rfl

theorem start_reload {other : Program} (hentry : program.entry? = other.entry?)
    (options : Options) : start program options = (start other options).reload program := by
  unfold start
  dsimp only
  rw [hentry]
  cases other.entry? <;> rfl

/-- Where two programs agree, it does not matter whether one takes the place of
the other before an action or after it. -/
theorem act_reload {intent : Intent} (hagrees : program.AgreesOn session.program intent) :
    (session.reload program).act intent = (session.act intent).map (·.reload program) id := by
  cases intent with
  | press target =>
      have hpress : (session.reload program).press target =
          (session.press target).reload program := by
        unfold press
        rw [response_reload hagrees]
        rfl
      simp only [act, hpress]
      rfl
  | text text => exact submit_reload text
  | restart =>
      have hentry : program.entry? = session.program.entry? := hagrees entryName rfl
      have hrestart : (session.reload program).restart = session.restart.reload program :=
        start_reload hentry session.options
      simp only [act, hrestart]
      rfl

theorem next_reload {intent : Intent} (hagrees : program.AgreesOn session.program intent) :
    (session.reload program).next (.act intent) =
      (session.next (.act intent)).reload program := by
  unfold next
  dsimp only
  rw [act_reload hagrees]
  rfl

theorem outcome_reload {intent : Intent} (hagrees : program.AgreesOn session.program intent) :
    (session.reload program).outcome intent = session.outcome intent := by
  unfold outcome
  rw [next_reload hagrees, act_reload hagrees]
  rfl

end Reload

/-! ## Two runs -/

/-- The outcomes of actions that each find their program loaded. -/
def outcomesOver (session : Session) : List (Intent × Program) → List Outcome
  | [] => []
  | (intent, program) :: visits =>
      (session.reload program).outcome intent ::
        ((session.reload program).next (.act intent)).outcomesOver visits

theorem outcomesOver_reload (session : Session) (program : Program)
    (visits : List (Intent × Program)) :
    (session.reload program).outcomesOver visits = session.outcomesOver visits := by
  cases visits <;> rfl

theorem outcomes_eq_outcomesOver (session : Session) (events : List Event) :
    session.outcomes events = session.outcomesOver (session.program.visits events) := by
  induction events generalizing session with
  | nil => rfl
  | cons event events ih =>
      cases event with
      | act intent =>
          have hrest := ih (session.next (.act intent))
          rw [program_next_act] at hrest
          rw [outcomes, hrest]
          rfl
      | reload program =>
          have hrest := ih (session.reload program)
          rw [outcomesOver_reload] at hrest
          exact hrest

/-- Sessions in the same conversation stay in one through the same visits. -/
theorem outcomesOver_eq {session other : Session} (hoptions : session.options = other.options)
    (hconversation : session.conversation = other.conversation)
    {visits others : List (Intent × Program)}
    (hvisits : List.Forall₂ Program.SameVisit visits others) :
    session.outcomesOver visits = other.outcomesOver others := by
  induction hvisits generalizing session other with
  | nil => rfl
  | @cons visit otherVisit visits others hvisit hvisits ih =>
      obtain ⟨intent, program⟩ := visit
      obtain ⟨otherIntent, otherProgram⟩ := otherVisit
      obtain ⟨hintent, hagrees⟩ := hvisit
      dsimp only at hintent hagrees
      subst hintent
      -- The sessions differ in their programs only.
      have hsession : session.reload program = (other.reload otherProgram).reload program := by
        unfold reload
        rw [hoptions, hconversation]
      have hoverlap : program.AgreesOn (other.reload otherProgram).program intent := hagrees
      unfold outcomesOver
      rw [hsession, outcome_reload hoverlap, next_reload hoverlap]
      congr 1
      exact ih rfl rfl

theorem outcomesOver_restart {session other : Session} (hoptions : session.options = other.options)
    (program : Program) (visits : List (Intent × Program)) :
    session.outcomesOver ((.restart, program) :: visits) =
      other.outcomesOver ((.restart, program) :: visits) := by
  have hrestart : (session.reload program).restart = (other.reload program).restart := by
    unfold restart reload
    rw [hoptions]
  unfold outcomesOver outcome next
  dsimp only [act]
  rw [hrestart]

/-- Two runs over any programs, with any programs put in place on the way, give
the same outcomes if their programs agree on the entry at the start and on what
each action looks up when it is taken.  From a restart on they do so whatever
happened before it. -/
theorem outcomes_told_by_visits (options : Options) (left right : Program) :
    (∀ events others : List Event, left.entry? = right.entry? →
      List.Forall₂ Program.SameVisit (left.visits events) (right.visits others) →
        (start left options).conversation = (start right options).conversation ∧
          (start left options).outcomes events = (start right options).outcomes others) ∧
      ∀ before otherBefore events others : List Event,
        let session := (start left options).run before
        let other := (start right options).run otherBefore
        List.Forall₂ Program.SameVisit (session.program.visits (.act .restart :: events))
            (other.program.visits (.act .restart :: others)) →
          session.outcomes (.act .restart :: events) =
            other.outcomes (.act .restart :: others) := by
  constructor
  · intro events others hentry hvisits
    have hstart := start_reload hentry options
    have hconversation :
        (start left options).conversation = (start right options).conversation := by
      rw [hstart]
      rfl
    have hoptions : (start left options).options = (start right options).options := by
      rw [hstart]
      rfl
    refine ⟨hconversation, ?_⟩
    rw [outcomes_eq_outcomesOver, outcomes_eq_outcomesOver, (program_start left options).1,
      (program_start right options).1]
    exact outcomesOver_eq hoptions hconversation hvisits
  · intro before otherBefore events others session other hvisits
    have hoptions : session.options = other.options := by
      rw [options_run, options_run, (program_start left options).2,
        (program_start right options).2]
    rw [outcomes_eq_outcomesOver, outcomes_eq_outcomesOver]
    calc session.outcomesOver (session.program.visits (.act .restart :: events)) =
        session.outcomesOver (other.program.visits (.act .restart :: others)) :=
          outcomesOver_eq rfl rfl hvisits
      _ = other.outcomesOver (other.program.visits (.act .restart :: others)) :=
          outcomesOver_restart hoptions _ _

/-- A flow that is not visited makes no difference, nor does an edit while a name
is awaited. -/
theorem outcomes_told_by_visits_unvisited :
    let menu := (Program.empty.insert ⟨"planos", "Dois", []⟩).insert
      ⟨entryName, "Oi", [⟨"Planos", "planos"⟩]⟩
    let longer := menu.insert ⟨"precos", "Dez", []⟩
    menu ≠ longer ∧
      (start menu {}).outcomes [.act (.press "planos"), .act (.press handoffTarget),
          .reload .empty, .act (.text " Maria ")] =
        (start longer {}).outcomes [.act (.press "planos"), .act (.press handoffTarget),
          .act (.text " Maria ")] ∧
      ((start menu {}).run [.act (.press "precos")]).outcomes
          [.act .restart, .reload longer, .act (.press "planos")] =
        ((start longer {}).run [.act (.text "Olá")]).outcomes
          [.act .restart, .act (.press "planos")] := by
  intro menu longer
  obtain ⟨hstart, hrestart⟩ := outcomes_told_by_visits {} menu longer
  refine ⟨by decide, (hstart _ _ (by decide) ?_).2, hrestart _ _ _ _ ?_⟩
  · exact .cons ⟨rfl, by decide⟩ (.cons ⟨rfl, by decide⟩ (.cons ⟨rfl, by decide⟩ .nil))
  · exact .cons ⟨rfl, by decide⟩ (.cons ⟨rfl, by decide⟩ .nil)

end Session

end ChatFlow

import ChatFlow.Proofs.Session.Events

/-!
# The phase of a session and its log

A session keeps its phase and its transcript side by side.  This development
logs with each turn what made it and shows that the phase can be read off the
log: a name is awaited exactly while the last turn is the prompt for it, turns
of the fallback aside, and the flow shown is that of the last turn with
buttons.
-/

namespace ChatFlow

/-- A turn with what is known of its making. -/
structure LoggedTurn where
  turn : Turn
  /-- The program that was loaded when the turn was made. -/
  program : Program
  /-- The target of the press that the turn answers, if it answers one. -/
  pressed? : Option String

namespace LoggedTurn

/-- The turn answers a press that leads nowhere. -/
def isFallback (logged : LoggedTurn) : Bool :=
  logged.pressed?.any fun target => decide (logged.program.FallsBack target)

/-- The turn asks for the name of a user who wants a human. -/
def IsPrompt (messages : Messages) (logged : LoggedTurn) : Prop :=
  logged.pressed? = some handoffTarget ∧ logged.turn = .say messages.handoffPrompt

def offers (logged : LoggedTurn) : Bool :=
  logged.turn.buttons?.isSome

def Shows (logged : LoggedTurn) (flow : String) : Prop :=
  ∃ node, logged.program.get? flow = some node ∧ logged.turn = .ofNode node

end LoggedTurn

def lastHeeded? (log : List LoggedTurn) : Option LoggedTurn :=
  log.reverse.find? (!·.isFallback)

/-- The last turn with buttons, also if there are none of them. -/
def lastOffer? (log : List LoggedTurn) : Option LoggedTurn :=
  log.reverse.find? (·.offers)

theorem lastHeeded?_append (log : List LoggedTurn) (logged : LoggedTurn) :
    lastHeeded? (log ++ [logged]) =
      if logged.isFallback then lastHeeded? log else some logged := by
  cases hfallback : logged.isFallback <;> simp [lastHeeded?, hfallback]

theorem lastOffer?_append (log : List LoggedTurn) (logged : LoggedTurn) :
    lastOffer? (log ++ [logged]) =
      if logged.offers then some logged else lastOffer? log := by
  cases hoffers : logged.offers <;> simp [lastOffer?, hoffers]

def Event.pressed? : Event → Option String
  | .act (.press target) => some target
  | _ => none

structure History where
  session : Session
  log : List LoggedTurn

namespace History

def start (program : Program) (options : Options) : History :=
  let session := Session.start program options
  ⟨session, session.turns.map (⟨·, program, none⟩)⟩

/-- Logs the turns that the event adds; a restart starts another log. -/
def next (history : History) (event : Event) : History :=
  let after := history.session.next event
  let kept := if event = .act .restart then [] else history.log
  ⟨after, kept ++ (after.turns.drop kept.length).map (⟨·, after.program, event.pressed?⟩)⟩

def run (history : History) (events : List Event) : History :=
  events.foldl next history

def record (history : History) (turn : Turn) (phase : Phase) (pressed? : Option String) :
    History :=
  ⟨history.session.record turn phase,
    history.log ++ [⟨turn, history.session.program, pressed?⟩]⟩

/-! ## The phase that a log tells -/

/-- The log lists the turns of the session and tells its phase. -/
structure Tells (history : History) : Prop where
  turns : history.log.map (·.turn) = history.session.turns
  keyed : history.session.program.WellKeyed
  awaiting :
    history.session.phase.isAwaiting = true ↔
      ∃ logged, lastHeeded? history.log = some logged ∧
        logged.IsPrompt history.session.options.messages
  idle : history.session.phase.flow? = none ↔ lastOffer? history.log = none
  shown :
    ∀ flow, history.session.phase.flow? = some flow →
      ∃ logged, lastOffer? history.log = some logged ∧ logged.Shows flow

namespace Tells

variable {history : History}

theorem record_plain (htells : history.Tells) {turn : Turn} {phase : Phase}
    {pressed? : Option String} (hplain : turn.buttons? = none)
    (hflow : phase.flow? = history.session.phase.flow?)
    (hawaiting : phase.isAwaiting = true ↔
      if (LoggedTurn.mk turn history.session.program pressed?).isFallback then
        history.session.phase.isAwaiting = true
      else (LoggedTurn.mk turn history.session.program pressed?).IsPrompt
        history.session.options.messages) :
    (history.record turn phase pressed?).Tells := by
  have hoffer : lastOffer? (history.record turn phase pressed?).log =
      lastOffer? history.log := by
    rw [record, lastOffer?_append, if_neg (by simp [LoggedTurn.offers, hplain])]
  refine ⟨?_, htells.keyed, ?_, ?_, ?_⟩
  · simp [record, htells.turns]
  · rw [show (history.record turn phase pressed?).session.phase = phase from rfl, hawaiting,
      record, lastHeeded?_append]
    split
    · exact htells.awaiting
    · simp
  · rw [hoffer, ← htells.idle, ← hflow]
    rfl
  · intro flow hshown
    rw [hoffer]
    exact htells.shown flow (hflow ▸ hshown)

theorem record_node (htells : history.Tells) {name : String} {node : Node}
    (hnode : history.session.program.get? name = some node) {pressed? : Option String}
    (hpressed : pressed? ≠ some handoffTarget)
    (hheeded : LoggedTurn.isFallback ⟨.ofNode node, history.session.program, pressed?⟩ = false) :
    (history.record (.ofNode node) (.running node.name) pressed?).Tells := by
  have hname := htells.keyed name node hnode
  refine ⟨?_, htells.keyed, ?_, ?_, ?_⟩
  · simp [record, htells.turns]
  · simp [record, lastHeeded?_append, hheeded, Phase.isAwaiting, LoggedTurn.IsPrompt, hpressed]
  · simp [record, lastOffer?_append, LoggedTurn.offers, Turn.ofNode, Phase.flow?]
  · intro flow hflow
    obtain rfl : node.name = flow := Option.some.inj hflow
    refine ⟨⟨.ofNode node, history.session.program, pressed?⟩, ?_, ?_⟩
    · simp [record, lastOffer?_append, LoggedTurn.offers, Turn.ofNode]
    · exact ⟨node, hname ▸ hnode, rfl⟩

end Tells

theorem tells_start {program : Program} (hprogram : program.WellKeyed) (options : Options) :
    (start program options).Tells := by
  let blank : History :=
    ⟨⟨program, options, { transcript := { window := options.window } }⟩, []⟩
  have hblank : blank.Tells := by
    refine ⟨rfl, hprogram, ?_, ?_, ?_⟩
    · simp [blank, lastHeeded?, Session.phase, Phase.isAwaiting]
    · simp [blank, lastOffer?, Session.phase, Phase.flow?]
    · simp [blank, Session.phase, Phase.flow?]
  cases hentry : program.entry? with
  | none =>
      have hstart : start program options = blank := by
        simp [start, Session.start, hentry, blank, Session.turns, Session.transcript]
      exact hstart ▸ hblank
  | some entry =>
      have hstart : start program options =
          blank.record (.ofNode entry) (.running entry.name) none := by
        simp [start, Session.start, hentry, blank, record, Session.turns, Session.transcript,
          Session.record, Transcript.push]
      exact hstart ▸ hblank.record_node hentry (by simp) rfl

theorem Tells.next_eq {history : History} (htells : history.Tells) {event : Event}
    (hevent : event ≠ .act .restart) {after : Session}
    (hafter : history.session.next event = after) {new : List Turn}
    (hnew : after.turns = history.session.turns ++ new) :
    history.next event =
      ⟨after, history.log ++ new.map (⟨·, after.program, event.pressed?⟩)⟩ := by
  have hlength : history.log.length = history.session.turns.length := by
    rw [← htells.turns, List.length_map]
  unfold History.next
  dsimp only
  rw [hafter, if_neg hevent, hnew, hlength, List.drop_left]

theorem Tells.next {history : History} (htells : history.Tells) {event : Event}
    (hevent : ∀ program, event = .reload program → program.WellKeyed) :
    (history.next event).Tells := by
  have hmove := history.session.move_next event
  generalize hafter : history.session.next event = after at hmove
  cases hmove with
  | prompt =>
      rw [htells.next_eq (by simp) hafter (Session.turns_record ..)]
      exact htells.record_plain rfl rfl (by simp [LoggedTurn.isFallback, LoggedTurn.IsPrompt,
        Program.FallsBack, Phase.isAwaiting, Event.pressed?])
  | enter htarget hnode =>
      rw [htells.next_eq (by simp) hafter (Session.turns_record ..)]
      apply htells.record_node hnode
      · simpa [Event.pressed?] using htarget
      · simp [LoggedTurn.isFallback, Program.FallsBack, hnode, Event.pressed?]
  | fallback hfalls =>
      rw [htells.next_eq (by simp) hafter (Session.turns_record ..)]
      exact htells.record_plain rfl rfl (by simp [LoggedTurn.isFallback, hfalls, Event.pressed?])
  | refuse hempty =>
      rw [htells.next_eq (by simp) hafter (List.append_nil _).symm]
      simpa using htells
  | hear hsome hphase =>
      rw [htells.next_eq (by simp) hafter (Session.turns_record ..)]
      exact htells.record_plain rfl rfl (by simp [LoggedTurn.isFallback, LoggedTurn.IsPrompt,
        Event.pressed?, hphase])
  | @capture text prior? hsome hphase =>
      have hawaiting : (Phase.ofFlow? prior?).isAwaiting = false := by
        cases prior? <;> rfl
      -- The log does not tell the phase between the two turns, so both are
      -- taken to be made in the phase that the second leads to.
      have hheard : (history.record (.user (Text.trimmed text)) (.ofFlow? prior?) none).Tells :=
        htells.record_plain rfl (by rw [hphase, Phase.flow?_ofFlow?]; rfl)
          (by simp [LoggedTurn.isFallback, LoggedTurn.IsPrompt, hawaiting])
      have hconfirmed :
          ((history.record (.user (Text.trimmed text)) (.ofFlow? prior?) none).record
            (.say (history.session.options.messages.confirmation (Text.trimmed text)))
            (.ofFlow? prior?) none).Tells :=
        hheard.record_plain rfl rfl
          (by simp [LoggedTurn.isFallback, LoggedTurn.IsPrompt, hawaiting])
      rw [htells.next_eq (by simp) hafter (by rw [Session.turns_record, Session.turns_record,
        List.append_assoc])]
      simpa [record, Session.record, Event.pressed?] using hconfirmed
  | restart =>
      have hstart : history.next (.act .restart) =
          start history.session.program history.session.options := by
        obtain ⟨hprogram, -⟩ := Session.program_start history.session.program
          history.session.options
        simp [History.next, hafter, start, Session.restart, hprogram, Event.pressed?]
      rw [hstart]
      exact tells_start htells.keyed _
  | @reload program =>
      rw [htells.next_eq (by simp) hafter (List.append_nil _).symm, List.map_nil,
        List.append_nil]
      exact ⟨htells.turns, hevent program rfl, htells.awaiting, htells.idle, htells.shown⟩

theorem Tells.run {history : History} (htells : history.Tells) {events : List Event}
    (hevents : ∀ program, .reload program ∈ events → program.WellKeyed) :
    (history.run events).Tells := by
  induction events generalizing history with
  | nil => exact htells
  | cons event events ih =>
      apply ih (htells.next _)
      · exact fun program hmem => hevents program (List.mem_cons_of_mem _ hmem)
      · rintro program rfl
        exact hevents program List.mem_cons_self

end History

end ChatFlow

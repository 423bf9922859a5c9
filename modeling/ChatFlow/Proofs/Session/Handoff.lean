import ChatFlow.Proofs.Session.Log

/-!
# From the handoff to the name

Whoever asks for a human is asked for a name, and the flow that was shown is
kept for after it.  Asking again, pressing what leads nowhere, sending white
space and reloading do not end the wait, in whatever number and order they come,
and every other event does.  When the name is given, the session is back where
it was.
-/

namespace ChatFlow

/-- The event does not end the wait for a name in a session over the program. -/
def Event.LeavesWaiting (program : Program) : Event → Prop
  | .act (.press target) => target = handoffTarget ∨ program.FallsBack target
  | .act (.text text) => Text.AllBlank text.toList
  | .act .restart => False
  | .reload _ => True

namespace Session

/-- None of the events ends the wait for a name over the program that is loaded
when it happens. -/
def LeftWaiting (session : Session) : List Event → Prop
  | [] => True
  | event :: events =>
      event.LeavesWaiting session.program ∧ (session.next event).LeftWaiting events

theorem LeftWaiting.of_prefix {session : Session} {before events : List Event}
    (hevents : session.LeftWaiting events) (hbefore : before <+: events) :
    session.LeftWaiting before := by
  induction before generalizing session events with
  | nil => trivial
  | cons event before ih =>
      obtain ⟨after, rfl⟩ := hbefore
      exact ⟨hevents.1, ih hevents.2 (List.prefix_append before after)⟩

theorem phase_press_handoff (session : Session) :
    (session.next (.act (.press handoffTarget))).phase = .awaiting session.phase.flow? := by
  rw [next_press, press, response, if_pos rfl]
  rfl

/-! ## While a name is awaited -/

section Waiting

variable {session : Session} {prior? : Option String}

/-- The flow to come back to stays the same until the wait ends. -/
theorem phase_next_of_leavesWaiting (hphase : session.phase = .awaiting prior?) {event : Event}
    (hevent : event.LeavesWaiting session.program) :
    (session.next event).phase = .awaiting prior? := by
  have hmove := session.move_next event
  generalize session.next event = after at hmove
  cases hmove with
  | prompt => rw [phase_record, hphase, Phase.flow?]
  | enter htarget hnode =>
      rcases hevent with heq | ⟨-, hnone⟩
      · contradiction
      · rw [hnode] at hnone
        contradiction
  | fallback hfalls => exact hphase
  | refuse hempty => exact hphase
  | hear hsome hother => simp [hphase, Phase.isAwaiting] at hother
  | @capture text other? hsome hother =>
      rw [(Text.isEmpty_trimmed_iff text).mpr hevent] at hsome
      contradiction
  | restart => exact False.elim hevent
  | reload => exact hphase

/-- All other events end the wait. -/
theorem isAwaiting_next_iff (hphase : session.phase = .awaiting prior?) {event : Event} :
    (session.next event).phase.isAwaiting = true ↔ event.LeavesWaiting session.program := by
  constructor
  · have hmove := session.move_next event
    generalize session.next event = after at hmove
    cases hmove with
    | prompt => exact fun _ => Or.inl rfl
    | enter htarget hnode => simp [Phase.isAwaiting]
    | fallback hfalls => exact fun _ => Or.inr hfalls
    | @refuse text hempty => exact fun _ => (Text.isEmpty_trimmed_iff text).mp hempty
    | hear hsome hother => simp [hphase, Phase.isAwaiting] at hother
    | @capture text other? hsome hother => cases other? <;> simp [Phase.ofFlow?, Phase.isAwaiting]
    | restart =>
        rw [restart, phase_start]
        cases session.program.entry? <;> simp [Phase.ofFlow?, Phase.isAwaiting]
    | reload => exact fun _ => trivial
  · intro hevent
    rw [phase_next_of_leavesWaiting hphase hevent]
    rfl

theorem phase_run_of_leftWaiting (hphase : session.phase = .awaiting prior?)
    {events : List Event} (hevents : session.LeftWaiting events) :
    (session.run events).phase = .awaiting prior? := by
  induction events generalizing session with
  | nil => exact hphase
  | cons event events ih =>
      exact ih (phase_next_of_leavesWaiting hphase hevents.1) hevents.2

end Waiting

/-- From the handoff on, events that do not end the wait keep the session waiting
and the flow that was shown in mind, and any other event ends the wait.  A text
that is not all white space is then logged without the white space around it,
confirmed as a name, and followed by the phase in which that flow is shown. -/
theorem handoff_comes_back (session : Session) (events : List Event)
    (hevents : (session.next (.act (.press handoffTarget))).LeftWaiting events) :
    let asked := session.next (.act (.press handoffTarget))
    let waiting := asked.run events
    (∀ before, before <+: events →
        (asked.run before).phase.isAwaiting = true ∧
          (asked.run before).phase.flow? = session.phase.flow?) ∧
      (∀ event, ¬ event.LeavesWaiting waiting.program →
        (waiting.next event).phase.isAwaiting = false) ∧
      ∀ text, ¬ Text.AllBlank text.toList →
        let named := waiting.next (.act (.text text))
        let made := [Turn.user (Text.trimmed text),
          .say (session.options.messages.confirmation (Text.trimmed text))]
        waiting.act (.text text) = (named, .ok made) ∧
          named.turns = waiting.turns ++ made ∧
          named.phase =
            match session.phase.flow? with
            | some flow => .running flow
            | none => .idle := by
  intro asked waiting
  have hasked : asked.phase = .awaiting session.phase.flow? := phase_press_handoff session
  have hwaiting : waiting.phase = .awaiting session.phase.flow? :=
    phase_run_of_leftWaiting hasked hevents
  refine ⟨fun before hbefore => ?_, fun event hevent => ?_, fun text htext => ?_⟩
  · have hphase := phase_run_of_leftWaiting hasked (hevents.of_prefix hbefore)
    rw [hphase]
    exact ⟨rfl, rfl⟩
  · rwa [← isAwaiting_next_iff hwaiting, Bool.not_eq_true] at hevent
  · have hsome : (Text.trimmed text).isEmpty = false := by
      rwa [← Text.isEmpty_trimmed_iff, Bool.not_eq_true] at htext
    have hoptions : waiting.options = session.options := by
      rw [options_run, options_next]
    have hnamed := next_text_of_awaiting hwaiting hsome
    have hact := act_text_of_awaiting hwaiting hsome
    rw [hoptions] at hact hnamed
    dsimp only
    refine ⟨hact, ?_, ?_⟩
    · rw [hnamed, turns_record, turns_record, List.append_assoc]
      rfl
    · rw [hnamed, phase_record]
      cases session.phase.flow? <;> rfl

/-- Two handoffs, a press that leads nowhere, white space and an edit that takes
the flow out do not lose the user's place. -/
theorem handoff_comes_back_edited :
    let menu := (Program.empty.insert ⟨"planos", "Dois", []⟩).insert
      ⟨entryName, "Oi", [⟨"Planos", "planos"⟩]⟩
    let session := (start menu {}).run [.act (.press "planos")]
    let events := [.act (.press handoffTarget), .act (.press "precos"), .reload .empty,
      .act (.press "planos"), .act (.text " \n")]
    let asked := session.next (.act (.press handoffTarget))
    asked.LeftWaiting events ∧ (asked.run events).phase.flow? = some "planos" ∧
      ((asked.run events).next (.act (.text " Maria "))).phase = .running "planos" := by
  intro menu session events asked
  have hblank : Text.AllBlank " \n".toList :=
    (Text.isEmpty_trimmed_iff " \n").mp (by decide +kernel)
  have hname : ¬ Text.AllBlank " Maria ".toList := fun hall =>
    absurd (hall 'M' (by decide)) (by decide)
  have hevents : asked.LeftWaiting events :=
    ⟨Or.inl rfl, Or.inr (by decide +kernel), trivial, Or.inr (by decide +kernel), hblank, trivial⟩
  obtain ⟨hwaits, -, hcomes⟩ := handoff_comes_back session events hevents
  refine ⟨hevents, ?_, ?_⟩
  · rw [(hwaits events (List.prefix_refl events)).2]
    decide +kernel
  · rw [(hcomes " Maria " hname).2.2]
    decide +kernel

end Session

end ChatFlow

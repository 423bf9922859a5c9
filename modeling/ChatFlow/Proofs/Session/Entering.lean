import ChatFlow.Proofs.Session.Events
import ChatFlow.Proofs.Source.Image

/-!
# Flows that a session enters

A session enters a flow when it starts, when a press finds the flow and when a
captured name brings it back to the flow shown before.  The first two look the
flow up in the program; the last one does not.  So along every run a flow that
is entered is in the program, unless a reload took it out while its name was
kept for after the capture.
-/

namespace ChatFlow

/-- Some node with this name inside is filed where a press finds it. -/
def Program.Finds (program : Program) (flow : String) : Prop :=
  ∃ name node, name ≠ handoffTarget ∧ program.get? name = some node ∧ node.name = flow

theorem Program.WellKeyed.contains_of_finds {program : Program} (hprogram : program.WellKeyed)
    {flow : String} (hfinds : program.Finds flow) : program.contains flow = true := by
  obtain ⟨name, node, -, hnode, rfl⟩ := hfinds
  exact hprogram.contains_name hnode

namespace Session

theorem finds_of_flow?_start {program : Program} {options : Options} {flow : String}
    (hflow : (start program options).phase.flow? = some flow) : program.Finds flow := by
  rw [phase_start, Phase.flow?_ofFlow?] at hflow
  obtain ⟨entry, hentry, rfl⟩ := Option.map_eq_some_iff.mp hflow
  exact ⟨entryName, entry, by decide, hentry, rfl⟩

/-- The flow shown after an action was shown before it or is found by a press. -/
theorem flow?_next_act {session : Session} {intent : Intent} {flow : String}
    (hflow : (session.next (.act intent)).phase.flow? = some flow) :
    session.phase.flow? = some flow ∨ session.program.Finds flow := by
  have hmove := session.move_next (.act intent)
  generalize session.next (.act intent) = after at hmove hflow
  cases hmove with
  | prompt => exact Or.inl hflow
  | @enter target node htarget hnode =>
      right
      exact ⟨target, node, htarget, hnode, Option.some.inj hflow⟩
  | fallback hfalls => exact Or.inl hflow
  | refuse hempty => exact Or.inl hflow
  | hear hsome hphase => exact Or.inl hflow
  | @capture text prior? hsome hphase =>
      -- The flow that is shown again was the one to come back to.
      left
      rw [phase_record, Phase.flow?_ofFlow?] at hflow
      rw [hphase]
      exact hflow
  | restart => exact Or.inr (finds_of_flow?_start hflow)

/-- The flow that is shown is in the program. -/
def ShowsFiled (session : Session) : Prop :=
  ∀ flow, session.phase.flow? = some flow → session.program.contains flow = true

theorem showsFiled_start {program : Program} (hprogram : program.WellKeyed)
    (options : Options) : (start program options).ShowsFiled := by
  intro flow hflow
  rw [(program_start program options).1]
  exact hprogram.contains_of_finds (finds_of_flow?_start hflow)

theorem ShowsFiled.act {session : Session} (hshows : session.ShowsFiled)
    (hprogram : session.program.WellKeyed) (intent : Intent) :
    (session.next (.act intent)).ShowsFiled := by
  intro flow hflow
  rw [program_next_act]
  rcases flow?_next_act hflow with hbefore | hfinds
  · exact hshows flow hbefore
  · exact hprogram.contains_of_finds hfinds

/-- After the events, the flow shown is in the program, unless one of them put
the program in place. -/
structure FiledUnlessReloaded (session : Session) (events : List Event) : Prop where
  keyed : session.program.WellKeyed
  filed : session.ShowsFiled ∨ .reload session.program ∈ events

namespace FiledUnlessReloaded

variable {session : Session} {events : List Event}

theorem next (hsession : session.FiledUnlessReloaded events) {event : Event}
    (hevent : ∀ program, event = .reload program → program.WellKeyed) :
    (session.next event).FiledUnlessReloaded (events ++ [event]) := by
  cases event with
  | act intent =>
      have hsame := session.program_next_act intent
      refine ⟨hsame ▸ hsession.keyed, ?_⟩
      rcases hsession.filed with hshows | hreload
      · exact Or.inl (hshows.act hsession.keyed intent)
      · right
        rw [hsame]
        exact List.mem_append_left _ hreload
  | reload program =>
      refine ⟨hevent program rfl, Or.inr ?_⟩
      apply List.mem_append_right
      exact List.mem_singleton_self _

theorem run (hsession : session.FiledUnlessReloaded events) {rest : List Event}
    (hrest : ∀ program, .reload program ∈ rest → program.WellKeyed) :
    (session.run rest).FiledUnlessReloaded (events ++ rest) := by
  induction rest generalizing session events with
  | nil => simpa [Session.run] using hsession
  | cons event rest ih =>
      have hnext : (session.next event).FiledUnlessReloaded (events ++ [event]) := by
        apply hsession.next
        rintro program rfl
        exact hrest program List.mem_cons_self
      have hrun := ih hnext fun program hmem => hrest program (List.mem_cons_of_mem _ hmem)
      rwa [List.append_assoc] at hrun

end FiledUnlessReloaded

/-- An action that brings a session to a flow finds the flow in the program or
captures a name and comes back to the flow kept for that. -/
theorem contains_or_captures {session : Session} (hprogram : session.program.WellKeyed)
    {intent : Intent} {flow : String}
    (hafter : (session.next (.act intent)).phase = .running flow)
    (hchange : session.phase ≠ .running flow) :
    session.program.contains flow = true ∨
      (∃ text, intent = .text text ∧ (Text.trimmed text).isEmpty = false) ∧
        session.phase = .awaiting (some flow) := by
  have hmove := session.move_next (.act intent)
  generalize session.next (.act intent) = after at hmove hafter
  cases hmove with
  | prompt => simp at hafter
  | @enter target node htarget hnode =>
      left
      obtain rfl : node.name = flow := by simpa using hafter
      exact hprogram.contains_name hnode
  | fallback hfalls => exact absurd hafter hchange
  | refuse hempty => exact absurd hafter hchange
  | hear hsome hphase => exact absurd hafter hchange
  | @capture text prior? hsome hphase =>
      right
      refine ⟨⟨text, rfl, hsome⟩, ?_⟩
      rw [hphase]
      cases prior? with
      | none => simp [Phase.ofFlow?] at hafter
      | some prior =>
          have hprior : prior = flow := by simpa [Phase.ofFlow?] using hafter
          rw [hprior]
  | restart =>
      left
      have hshows := showsFiled_start hprogram session.options flow
      rw [(program_start session.program session.options).1] at hshows
      apply hshows
      rw [show start session.program session.options = session.restart from rfl, hafter]
      rfl

theorem phase_next_text_of_awaiting {session : Session} {prior? : Option String}
    (hphase : session.phase = .awaiting prior?) {text : String}
    (hsome : (Text.trimmed text).isEmpty = false) :
    (session.next (.act (.text text))).phase = .ofFlow? prior? := by
  rw [next_text_of_awaiting hphase hsome, phase_record]

/-- Along every run over programs of sources, the only actions that enter a flow
which the program lacks are those that capture a name and come back to a flow
after a reload took it out. -/
theorem enters_missing_flow_iff (source : String) (options : Options) (events : List Event)
    (hevents : ∀ program, .reload program ∈ events → ∃ text, Program.ofSource text = program)
    (intent : Intent) (flow : String) :
    let session := (start (Program.ofSource source) options).run events
    ((session.next (.act intent)).phase = .running flow ∧ session.phase ≠ .running flow ∧
        session.program.contains flow = false) ↔
      (∃ text, intent = .text text ∧ (Text.trimmed text).isEmpty = false) ∧
        session.phase = .awaiting (some flow) ∧
          session.program.contains flow = false ∧ .reload session.program ∈ events := by
  intro session
  have hkeyed : ∀ program, .reload program ∈ events → program.WellKeyed := by
    intro program hmem
    obtain ⟨text, rfl⟩ := hevents program hmem
    exact Program.wellKeyed_ofSource text
  have hsource := Program.wellKeyed_ofSource source
  have hstart : (start (Program.ofSource source) options).FiledUnlessReloaded [] :=
    ⟨(program_start _ options).1 ▸ hsource, Or.inl (showsFiled_start hsource options)⟩
  have hrun : session.FiledUnlessReloaded events := hstart.run hkeyed
  constructor
  · rintro ⟨hafter, hchange, hmissing⟩
    rcases contains_or_captures hrun.keyed hafter hchange with hfiled | ⟨htext, hphase⟩
    · rw [hmissing] at hfiled
      contradiction
    · refine ⟨htext, hphase, hmissing, ?_⟩
      apply hrun.filed.resolve_left
      intro hshows
      have hfiled := hshows flow (by rw [hphase]; rfl)
      rw [hmissing] at hfiled
      contradiction
  · rintro ⟨⟨text, rfl, hsome⟩, hphase, hmissing, -⟩
    refine ⟨phase_next_text_of_awaiting hphase hsome, ?_, hmissing⟩
    simp [hphase]

/-- An entry that is edited out while a name is awaited is entered once more. -/
theorem enters_missing_flow_iff_edited_out :
    let session := (start (Program.ofSource "inicio:\nmensagem:\n\"Oi\"\n") {}).run
      [.act (.press handoffTarget), .reload (Program.ofSource "")]
    (session.next (.act (.text " Maria "))).phase = .running entryName ∧
      session.phase ≠ .running entryName ∧ session.program.contains entryName = false := by
  intro session
  have hmem : .reload (Program.ofSource "") ∈
      [.act (.press handoffTarget), Event.reload (Program.ofSource "")] := by simp
  apply (enters_missing_flow_iff _ {} _ ?_ (.text " Maria ") entryName).mpr
  · exact ⟨⟨_, rfl, by decide +kernel⟩, by decide +kernel, by decide +kernel, hmem⟩
  · intro program hprogram
    exact ⟨"", by simpa [eq_comm] using hprogram⟩

/-- Not every flow that an action brings the session to is in the program: a
flow is taken out here between the prompt and the name. -/
theorem exists_entered_missing_flow :
    ¬ ∀ (source : String) (options : Options) (events : List Event),
      (∀ program, .reload program ∈ events → ∃ text, Program.ofSource text = program) →
        ∀ (intent : Intent) (flow : String),
          let session := (start (Program.ofSource source) options).run events
          (session.next (.act intent)).phase = .running flow →
            session.phase ≠ .running flow → session.program.contains flow = true := by
  intro hall
  let source := "inicio:\nmensagem:\n\"Oi\"\nbotao 1:\n\"Planos\" -> planos\n" ++
    "fluxo planos:\nmensagem:\n\"Temos dois.\"\n"
  let edited := "inicio:\nmensagem:\n\"Oi\"\n"
  have hevents : ∀ program, Event.reload program ∈
      [.act (.press "planos"), .act (.press handoffTarget), .reload (Program.ofSource edited)] →
        ∃ text, Program.ofSource text = program := by
    intro program hprogram
    exact ⟨edited, by simpa [eq_comm] using hprogram⟩
  have hfiled := hall source {} _ hevents (.text "Maria") "planos"
    (by decide +kernel) (by decide +kernel)
  revert hfiled
  decide +kernel

end Session

end ChatFlow

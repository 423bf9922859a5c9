import ChatFlow.Proofs.Diagnostic.Finding
import ChatFlow.Proofs.Source.Image

/-!
# Flows that presses show

A flow can be shown if presses lead to it from a new session, each of a button
of the flow that is shown at that point.  The search for reachable flows takes
every button for a way to the flow of its target, but a press of the handoff
target asks for a human even where a flow has that name.  The two agree for all
flows of a source as long as the search does not come to the flow of that name.
-/

namespace ChatFlow

/-- A session after presses of buttons of the flows that it showed in turn. -/
inductive Session.PressedFrom (session : Session) : Session → Prop
  | refl : session.PressedFrom session
  | press {later : Session} {flow : String} {node : Node} {button : Button}
      (hlater : session.PressedFrom later) (hflow : later.phase.flow? = some flow)
      (hnode : later.program.get? flow = some node) (hbutton : button ∈ node.buttons) :
      session.PressedFrom (later.press button.target)

/-- Presses of offered buttons show the flow in a new session. -/
def Program.CanShow (program : Program) (options : Options) (flow : String) : Prop :=
  ∃ session, (Session.start program options).PressedFrom session ∧
    session.phase.flow? = some flow

/-- Some diagnostic says that the flow is out of reach. -/
def Source.Compilation.ReportsUnreachable (compilation : Compilation) (flow : String) : Prop :=
  ∃ diagnostic ∈ compilation.diagnostics, diagnostic.rule = Rule.unreachableFlow.id ∧
    diagnostic.message = (Problem.unreachableFlow flow).message

namespace Session

variable {program : Program} {options : Options}

/-- Presses keep the program and never show the flow named like the handoff. -/
theorem PressedFrom.keeps (hprogram : program.WellKeyed) {session : Session}
    (hpressed : (start program options).PressedFrom session) :
    session.program = program ∧ session.phase.flow? ≠ some handoffTarget := by
  induction hpressed with
  | refl =>
      refine ⟨(program_start program options).1, ?_⟩
      rw [phase_start, Phase.flow?_ofFlow?]
      intro hflow
      obtain ⟨entry, hentry, hname⟩ := Option.map_eq_some_iff.mp hflow
      have hentryName : entry.name = entryName := hprogram entryName entry hentry
      rw [hname] at hentryName
      exact absurd hentryName (by decide)
  | @press later flow node button hlater hflow hnode hbutton ih =>
      obtain ⟨hsame, hother⟩ := ih
      have hmove := later.move_next (.act (.press button.target))
      rw [next_press] at hmove
      generalize button.target = target at hmove
      generalize later.press target = after at hmove
      cases hmove with
      | prompt => exact ⟨hsame, hother⟩
      | @enter _ next htarget hnext =>
          have hname : next.name = target := hprogram target next (hsame ▸ hnext)
          refine ⟨hsame, ?_⟩
          rw [phase_record, hname]
          exact fun hflow => htarget (Option.some.inj hflow)
      | fallback hfalls => exact ⟨hsame, hother⟩

end Session

namespace Program

variable {program : Program}

theorem not_canShow_handoffTarget (hprogram : program.WellKeyed) (options : Options) :
    ¬ program.CanShow options handoffTarget := by
  rintro ⟨session, hpressed, hflow⟩
  exact (hpressed.keeps hprogram).2 hflow

/-- A chain of buttons that leaves the handoff aside can be pressed. -/
theorem Reachable.canShow (hprogram : program.WellKeyed)
    (hhandoff : ¬ program.Reachable handoffTarget) {flow : String}
    (hreachable : program.Reachable flow) (options : Options) :
    program.CanShow options flow := by
  induction hreachable with
  | @entry node hnode =>
      have hentry : program.entry? = some node := hnode
      have hname : node.name = entryName := hprogram entryName node hnode
      have hshown : (Session.start program options).phase.flow? = some entryName := by
        rw [Session.phase_start, hentry, Option.map_some, hname]
        rfl
      exact ⟨_, .refl, hshown⟩
  | @press name node next button hname hnode hbutton hnext ih =>
      obtain ⟨session, hpressed, hflow⟩ := ih
      have hsame := (hpressed.keeps hprogram).1
      have htarget : button.target ≠ handoffTarget := by
        intro heq
        exact hhandoff (heq ▸ hname.press hnode hbutton hnext)
      rw [← hsame] at hnode hnext
      refine ⟨_, hpressed.press hflow hnode hbutton, ?_⟩
      rw [Session.press_of_get? htarget hnext, Session.phase_record]
      rw [hsame] at hnext
      exact congrArg some (hprogram button.target next hnext)

end Program

namespace Source.Compilation

variable {compilation : Compilation}

/-- The flows reported are those of the program that are out of reach. -/
theorem reportsUnreachable_iff (hentry : compilation.program.contains entryName = true)
    {flow : String} (hflow : flow ∈ compilation.program.names) :
    compilation.ReportsUnreachable flow ↔ ¬ compilation.program.Reachable flow := by
  constructor
  · rintro ⟨diagnostic, hmem, hrule, hmessage⟩
    exact not_reachable_of_reported hmem hrule hmessage
  · intro hunreachable
    have hunmet : flow ∉ compilation.program.reached :=
      fun hmet => hunreachable (Program.mem_reached_iff.mp hmet)
    have hfinding := mem_unreachableFlows_iff.mpr ⟨hentry, flow, hflow, hunmet, rfl⟩
    obtain ⟨hmem, hrule⟩ := mem_diagnostics_iff.mpr
      ⟨_, show _ ∈ compilation.findingsOf .unreachableFlow from hfinding, rfl⟩
    exact ⟨_, hmem, hrule, rfl⟩

/-- In a source with an entry, presses show every flow that no diagnostic
reports as out of reach if and only if no flow is named like the handoff or a
diagnostic reports that one. -/
theorem canShow_unreported_iff (source : String) (options : Options)
    (hentry : (ofSource source).program.contains entryName = true) :
    let compilation := ofSource source
    (∀ flow ∈ compilation.program.names, ¬ compilation.ReportsUnreachable flow →
        compilation.program.CanShow options flow) ↔
      (handoffTarget ∈ compilation.program.names →
        compilation.ReportsUnreachable handoffTarget) := by
  intro compilation
  have hprogram : compilation.program.WellKeyed := Program.wellKeyed_ofSource source
  constructor
  · intro hshown hfiled
    by_contra hunreported
    exact compilation.program.not_canShow_handoffTarget hprogram options
      (hshown handoffTarget hfiled hunreported)
  · intro hhandoff flow hflow hunreported
    have hreachable : compilation.program.Reachable flow := by
      by_contra hunreachable
      exact hunreported ((reportsUnreachable_iff hentry hflow).mpr hunreachable)
    refine hreachable.canShow hprogram (fun hreached => ?_) options
    have hfiled := hreached.mem_names
    exact (reportsUnreachable_iff hentry hfiled).mp (hhandoff hfiled) hreached

/-- Nothing is reported here, and the second flow is shown. -/
theorem canShow_unreported_iff_menu :
    let source := "inicio:\nmensagem:\n\"Oi\"\nbotao 1:\n\"Planos\" -> planos\n" ++
      "\"Humano\" -> atendimento_humano\nfluxo planos:\nmensagem:\n\"Dois\"\n"
    (ofSource source).program.contains entryName = true ∧
      (ofSource source).program.CanShow {} "planos" := by
  intro source
  have hprogram : (ofSource source).program =
      (Program.empty.insert ⟨"planos", "Dois", []⟩).insert
        ⟨entryName, "Oi", [⟨"Planos", "planos"⟩, ⟨"Humano", handoffTarget⟩]⟩ := by
    decide +kernel
  have hentry : (ofSource source).program.contains entryName = true := by
    rw [hprogram]
    decide
  have hflow : "planos" ∈ (ofSource source).program.names := by
    rw [hprogram]
    decide
  have hhandoff : handoffTarget ∉ (ofSource source).program.names := by
    rw [hprogram]
    decide
  have hreachable : (ofSource source).program.Reachable "planos" := by
    rw [hprogram]
    exact @Program.Reachable.press _ entryName _ _ ⟨"Planos", "planos"⟩ (.entry rfl) rfl
      List.mem_cons_self rfl
  have hunreported : ¬ (ofSource source).ReportsUnreachable "planos" := by
    rw [reportsUnreachable_iff hentry hflow, not_not]
    exact hreachable
  have hshown := (canShow_unreported_iff source {} hentry).mpr fun hfiled =>
    absurd hfiled hhandoff
  exact ⟨hentry, hshown "planos" hflow hunreported⟩

/-- Not every flow that no diagnostic reports as out of reach can be shown: a
button leads to a flow named like the handoff here. -/
theorem exists_unreported_never_shown :
    ¬ ∀ (source : String) (options : Options),
      (ofSource source).program.contains entryName = true →
        ∀ flow ∈ (ofSource source).program.names,
          ¬ (ofSource source).ReportsUnreachable flow →
            (ofSource source).program.CanShow options flow := by
  intro hall
  let source := "inicio:\nmensagem:\n\"Oi\"\nbotao 1:\n\"Humano\" -> atendimento_humano\n" ++
    "fluxo atendimento_humano:\nmensagem:\n\"Já vem\"\n"
  have hprogram : (ofSource source).program =
      (Program.empty.insert ⟨handoffTarget, "Já vem", []⟩).insert
        ⟨entryName, "Oi", [⟨"Humano", handoffTarget⟩]⟩ := by
    decide +kernel
  have hentry : (ofSource source).program.contains entryName = true := by
    rw [hprogram]
    decide
  have hflow : handoffTarget ∈ (ofSource source).program.names := by
    rw [hprogram]
    decide
  have hreachable : (ofSource source).program.Reachable handoffTarget := by
    rw [hprogram]
    exact @Program.Reachable.press _ entryName _ _ ⟨"Humano", handoffTarget⟩ (.entry rfl) rfl
      List.mem_cons_self rfl
  have hunreported : ¬ (ofSource source).ReportsUnreachable handoffTarget := by
    rw [reportsUnreachable_iff hentry hflow, not_not]
    exact hreachable
  exact (ofSource source).program.not_canShow_handoffTarget
    (Program.wellKeyed_ofSource source) {} (hall source {} hentry handoffTarget hflow hunreported)

end Source.Compilation

end ChatFlow

import ChatFlow.Proofs.Chat.Numbers
import ChatFlow.Proofs.Diagnostic.Targets

/-!
# Buttons offered in a chat

What is typed in a chat can only press the buttons that were shown last.  As
long as the program stays, these are the buttons of the flow that is shown,
and presses reach that flow from the entry.  So what diagnostics say of the
buttons and flows of a source holds for every chat over it.
-/

namespace ChatFlow

namespace Session

def hear (session : Session) (line : String) : Session :=
  session.next (.act (session.intent line))

def hearAll (session : Session) (lines : List String) : Session :=
  lines.foldl hear session

@[simp] theorem shownButtons?_record (session : Session) (turn : Turn) (phase : Phase) :
    (session.record turn phase).shownButtons? = turn.buttons?.or session.shownButtons? := by
  cases hbuttons : turn.buttons? <;> simp [shownButtons?, hbuttons]

theorem press_of_intent {session : Session} {line target : String}
    (hintent : session.intent line = .press target) :
    ∃ buttons, session.shownButtons? = some buttons ∧
      ∃ button ∈ buttons, button.target = target := by
  obtain ⟨-, button, hchoice, htarget⟩ := intent_eq_press_iff.mp hintent
  obtain ⟨buttons, number, hshown, -, -, hbutton⟩ := choice?_eq_some_iff.mp hchoice
  exact ⟨buttons, hshown, button, List.fst_mem_of_mem_zipIdx hbutton, htarget⟩

end Session

/-- The flow that is shown is reachable and its buttons are those on screen. -/
inductive Program.Offers (program : Program) : Option String → Option (List Button) → Prop
  | none : program.Offers none none
  | some {flow : String} {node : Node} (hreachable : program.Reachable flow)
      (hnode : program.get? flow = some node) : program.Offers (some flow) (some node.buttons)

/-- A session over the program offers the buttons of the flow it shows. -/
structure Session.OffersOf (program : Program) (session : Session) : Prop where
  keeps : session.program = program
  offers : program.Offers session.phase.flow? session.shownButtons?

namespace Session.OffersOf

variable {program : Program} {session : Session}

theorem start (hprogram : program.WellKeyed) (options : Options) :
    (Session.start program options).OffersOf program := by
  refine ⟨(program_start program options).1, ?_⟩
  unfold Session.start
  dsimp only
  cases hentry : program.entry? with
  | none => exact .none
  | some entry =>
      have hname := hprogram entryName entry hentry
      have hoffers := Program.Offers.some (.entry hentry) hentry
      simpa [Phase.flow?, Turn.ofNode, hname] using hoffers

theorem button_of_intent (hsession : session.OffersOf program) {line target : String}
    (hintent : session.intent line = .press target) :
    ∃ flow node button, program.Reachable flow ∧ program.get? flow = some node ∧
      button ∈ node.buttons ∧ button.target = target := by
  obtain ⟨buttons, hshown, button, hbutton, htarget⟩ := press_of_intent hintent
  have hoffers := hsession.offers
  generalize session.phase.flow? = flow? at hoffers
  rw [hshown] at hoffers
  cases hoffers with
  | @some flow node hreachable hnode =>
      exact ⟨flow, node, button, hreachable, hnode, hbutton, htarget⟩

theorem record_plain (hsession : session.OffersOf program) {turn : Turn} {phase : Phase}
    (hplain : turn.buttons? = none) (hflow : phase.flow? = session.phase.flow?) :
    (session.record turn phase).OffersOf program := by
  refine ⟨hsession.keeps, ?_⟩
  rw [phase_record, shownButtons?_record, hplain, Option.none_or, hflow]
  exact hsession.offers

theorem hear (hsession : session.OffersOf program) (hprogram : program.WellKeyed)
    (line : String) : (session.hear line).OffersOf program := by
  have hmove := session.move_next (.act (session.intent line))
  unfold Session.hear
  generalize hintent : session.intent line = intent at hmove ⊢
  generalize session.next (.act intent) = after at hmove ⊢
  cases hmove with
  | prompt => exact hsession.record_plain rfl rfl
  | enter htarget hnode =>
      rw [hsession.keeps] at hnode
      obtain ⟨flow, node, button, hreachable, hflow, hbutton, rfl⟩ :=
        hsession.button_of_intent hintent
      have hoffers := Program.Offers.some (hreachable.press hflow hbutton hnode) hnode
      refine ⟨hsession.keeps, ?_⟩
      simpa [Phase.flow?, Turn.ofNode, hprogram _ _ hnode] using hoffers
  | fallback hfalls => exact hsession.record_plain rfl rfl
  | refuse hempty => exact hsession
  | hear hsome hphase => exact hsession.record_plain rfl rfl
  | @capture text prior? hsome hphase =>
      have hheard :
          (session.record (.user (Text.trimmed text)) session.phase).OffersOf program :=
        hsession.record_plain rfl rfl
      apply hheard.record_plain rfl
      rw [Phase.flow?_ofFlow?, phase_record, hphase]
      rfl
  | restart =>
      unfold Session.restart
      rw [hsession.keeps]
      exact start hprogram session.options

theorem hearAll (hsession : session.OffersOf program) (hprogram : program.WellKeyed)
    (lines : List String) : (session.hearAll lines).OffersOf program := by
  induction lines generalizing session with
  | nil => exact hsession
  | cons line lines ih => exact ih (hsession.hear hprogram line)

end Session.OffersOf

/-- In a chat over the program of a source, no press gets the fallback unless a
diagnostic reports a target, and no flow is shown that a diagnostic reports as
out of reach. -/
theorem Session.hearAll_respects_diagnostics (source : String) (options : Options)
    (lines : List String) :
    let compilation := Source.Compilation.ofSource source
    let session := (Session.start compilation.program options).hearAll lines
    ((∀ diagnostic ∈ compilation.diagnostics, diagnostic.rule ≠ "undefined-target") →
        ∀ line target, session.intent line = .press target → ¬ session.GetsFallback target) ∧
      ∀ flow, session.phase.flow? = some flow → ∀ diagnostic ∈ compilation.diagnostics,
        diagnostic.rule = "unreachable-flow" →
          diagnostic.message ≠
            "flow '" ++ flow ++ "' is not reachable from '" ++ entryName ++ "'" := by
  intro compilation session
  have hprogram : compilation.program.WellKeyed := Program.wellKeyed_ofSource source
  have hsession : session.OffersOf compilation.program :=
    (OffersOf.start hprogram options).hearAll hprogram lines
  constructor
  · intro hclean line target hintent
    obtain ⟨flow, node, button, -, hnode, hbutton, rfl⟩ := hsession.button_of_intent hintent
    rw [getsFallback_iff, hsession.keeps]
    exact Source.Compilation.not_fallsBack_of_clean hclean
      (Program.mem_nodes_iff.mpr ⟨flow, hnode⟩) hbutton
  · intro flow hflow diagnostic hmem hrule hmessage
    have hoffers := hsession.offers
    generalize session.shownButtons? = shown? at hoffers
    rw [hflow] at hoffers
    cases hoffers with
    | some hreachable hnode =>
        exact Source.Compilation.not_reachable_of_reported hmem hrule hmessage hreachable

/-- The first button of a source without diagnostics on targets leads somewhere. -/
theorem Session.hearAll_respects_diagnostics_menu :
    let source := "inicio:\nmensagem:\n\"Oi\"\nbotao 1:\n\"Horário\" -> horario\n" ++
      "fluxo horario:\nmensagem:\n\"Das 9 às 18\"\n"
    let session := (Session.start (Program.ofSource source) {}).hearAll ["Bom dia"]
    session.intent "1" = .press "horario" ∧ ¬ session.GetsFallback "horario" := by
  intro source session
  have hclean : ∀ diagnostic ∈ (Source.Compilation.ofSource source).diagnostics,
      diagnostic.rule ≠ "undefined-target" :=
    Source.Compilation.forall_rule_ne_undefinedTarget_iff.mpr (by decide +kernel)
  have hintent : session.intent "1" = .press "horario" := by decide +kernel
  have hheld := hearAll_respects_diagnostics source {} ["Bom dia"]
  exact ⟨hintent, hheld.1 hclean "1" "horario" hintent⟩

end ChatFlow

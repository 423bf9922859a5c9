import ChatFlow.Proofs.Diagnostic.Finding
import ChatFlow.Proofs.Source.Image

/-!
# Diagnostics on targets and presses

A press gets the fallback if it adds a turn that says so and leaves the phase as
it is, however the messages are worded.  The diagnostics on targets are exact:
there is one for each button of the program whose press gets the fallback, and
none for any other, whatever the session has come to.  So a source has no errors
if and only if a conversation starts and no button gets the fallback.
-/

namespace ChatFlow

namespace Session

def worded (session : Session) (messages : Messages) : Session :=
  { session with options := { session.options with messages } }

/-- A press of the target says the fallback and does nothing else.  All wordings
count, since the prompt for a name could be worded like the fallback. -/
def GetsFallback (session : Session) (target : String) : Prop :=
  ∀ messages, (session.worded messages).press target =
    (session.worded messages).record (.say messages.fallback) session.phase

theorem turn_of_getsFallback {session : Session} {target : String}
    (hfallback : session.GetsFallback target) (messages : Messages) :
    ((session.worded messages).response target).1 = .say messages.fallback := by
  have hturns : session.turns ++ [((session.worded messages).response target).1] =
      session.turns ++ [.say messages.fallback] :=
    congrArg Session.turns (hfallback messages)
  simpa using hturns

/-- What a press gets depends on the program only, not on the conversation. -/
theorem getsFallback_iff {session : Session} {target : String} :
    session.GetsFallback target ↔ session.program.FallsBack target := by
  constructor
  · intro hfallback
    -- The text tells the fallback from the prompt, the buttons tell it from a node.
    have hturn := turn_of_getsFallback hfallback { handoffPrompt := "?", fallback := "!" }
    unfold response at hturn
    by_cases htarget : target = handoffTarget
    · rw [if_pos htarget] at hturn
      have htext := congrArg Turn.text hturn
      exact absurd htext (by decide : "?" ≠ "!")
    · rw [if_neg htarget] at hturn
      refine ⟨htarget, ?_⟩
      cases hnode : session.program.get? target with
      | none => rfl
      | some node =>
          have hprogram (messages : Messages) :
              (session.worded messages).program.get? target = some node := hnode
          rw [hprogram] at hturn
          have hbuttons := congrArg Turn.buttons? hturn
          simp [Turn.ofNode, Turn.say] at hbuttons
  · rintro ⟨htarget, hnone⟩ messages
    have hprogram : (session.worded messages).program.get? target = none := hnone
    unfold press response
    dsimp only
    rw [if_neg htarget, hprogram]
    rfl

instance (session : Session) (target : String) : Decidable (session.GetsFallback target) :=
  decidable_of_iff _ getsFallback_iff.symm

end Session

/-- All buttons of the program, each with the node that offers it. -/
def Program.offers (program : Program) : List (Node × Button) :=
  program.nodes.flatMap fun node => node.buttons.map fun button => (node, button)

theorem Program.mem_offers_iff {program : Program} {node : Node} {button : Button} :
    (node, button) ∈ program.offers ↔ node ∈ program.nodes ∧ button ∈ node.buttons := by
  simp [offers]

theorem Problem.severity_eq_error_iff (problem : Problem) :
    problem.severity = .error ↔ problem.rule = .missingEntry ∨ problem.rule = .undefinedTarget := by
  cases problem <;> simp [severity, rule]

namespace Source.Compilation

variable {compilation : Compilation}

/-- What is found at a button that leads nowhere. -/
def undefinedTargetAt (compilation : Compilation) (offer : Node × Button) : Finding :=
  ⟨compilation.headerLine offer.1.name,
    .undefinedTarget offer.2.label offer.1.name offer.2.target⟩

theorem undefinedTargets_eq (compilation : Compilation) :
    compilation.undefinedTargets =
      (compilation.program.offers.filter fun offer =>
        decide (compilation.program.FallsBack offer.2.target)).map
          compilation.undefinedTargetAt := by
  have hleads (target : String) :
      (!compilation.program.leads target) = decide (compilation.program.FallsBack target) := by
    rw [← Bool.coe_iff_coe, decide_eq_true_iff, ← Program.leads_eq_false_iff]
    simp
  unfold undefinedTargets Program.offers
  rw [List.filter_flatMap, List.map_flatMap]
  congr 1
  funext node
  rw [List.filter_map, List.map_map]
  simp only [hleads]
  rfl

/-- What the rules find, in the order of the rules. -/
def listing (compilation : Compilation) : List Finding :=
  Rule.all.flatMap compilation.findingsOf

theorem filter_listing (compilation : Compilation) (rule : Rule) :
    compilation.listing.filter (fun finding => finding.problem.rule = rule) =
      compilation.findingsOf rule := by
  have hrules (other : Rule) :
      (compilation.findingsOf other).filter (fun finding => finding.problem.rule = rule) =
        if other = rule then compilation.findingsOf other else [] := by
    split
    next heq =>
      apply List.filter_eq_self.mpr
      intro finding hmem
      simpa using (rule_of_mem_findingsOf hmem).trans heq
    next hne =>
      apply List.filter_eq_nil_iff.mpr
      intro finding hmem
      simpa [rule_of_mem_findingsOf hmem] using hne
  rw [listing, List.filter_flatMap]
  simp only [hrules]
  cases rule <;> simp [Rule.all]

/-- The findings of one rule are listed among the others, each as often as the
rule makes it. -/
theorem filter_findings_perm (compilation : Compilation) (rule : Rule) :
    (compilation.findings.filter fun finding => finding.problem.rule = rule).Perm
      (compilation.findingsOf rule) := by
  rw [← filter_listing]
  exact (List.mergeSort_perm compilation.listing Finding.precedes).filter _

theorem filter_diagnostics_eq (compilation : Compilation) (rule : Rule) :
    (compilation.diagnostics.filter fun diagnostic => diagnostic.rule = rule.id) =
      (compilation.findings.filter fun finding => finding.problem.rule = rule).map
        Finding.diagnostic := by
  have hid (finding : Finding) :
      decide (finding.diagnostic.rule = rule.id) = decide (finding.problem.rule = rule) := by
    rw [decide_eq_decide]
    exact ⟨Rule.eq_of_id_eq, congrArg Rule.id⟩
  unfold diagnostics
  rw [List.filter_map]
  simp only [Function.comp_def, hid]

theorem filter_diagnostics_perm (compilation : Compilation) (rule : Rule) :
    (compilation.diagnostics.filter fun diagnostic => diagnostic.rule = rule.id).Perm
      ((compilation.findingsOf rule).map Finding.diagnostic) := by
  rw [filter_diagnostics_eq]
  exact (compilation.filter_findings_perm rule).map _

theorem hasErrors_eq_false_iff :
    compilation.hasErrors = false ↔
      compilation.program.contains entryName = true ∧ compilation.undefinedTargets = [] := by
  have hfindings : compilation.hasErrors = false ↔
      ∀ finding ∈ compilation.findings, finding.problem.severity ≠ .error := by
    unfold hasErrors diagnostics
    rw [List.any_map, List.any_eq_false]
    exact forall₂_congr fun finding _ => not_congr decide_eq_true_iff
  have hentry : compilation.program.contains entryName = true ↔
      compilation.missingEntry = [] := by
    unfold missingEntry
    split <;> simp_all
  rw [hfindings, hentry, List.eq_nil_iff_forall_not_mem, List.eq_nil_iff_forall_not_mem]
  constructor
  · intro hclean
    have hnone (rule : Rule) (hrule : rule = .missingEntry ∨ rule = .undefinedTarget)
        (finding : Finding) : finding ∉ compilation.findingsOf rule := by
      intro hmem
      apply hclean finding (mem_findings_iff.mpr ⟨rule, hmem⟩)
      rwa [Problem.severity_eq_error_iff, rule_of_mem_findingsOf hmem]
    exact ⟨hnone .missingEntry (Or.inl rfl), hnone .undefinedTarget (Or.inr rfl)⟩
  · rintro ⟨hentry, htargets⟩ finding hmem herror
    obtain ⟨rule, hmem⟩ := mem_findings_iff.mp hmem
    rw [Problem.severity_eq_error_iff, rule_of_mem_findingsOf hmem] at herror
    rcases herror with rfl | rfl
    · exact hentry finding hmem
    · exact htargets finding hmem

/-- The header line of a node is that of the definition which gave the node. -/
theorem exists_definition_of_mem_nodes {source : String} {node : Node}
    (hmem : node ∈ (ofSource source).program.nodes) :
    ∃ definition, effective? node.name (definitions (readLines source)) = some definition ∧
      definition.node = node ∧ (ofSource source).headerLine node.name = definition.line := by
  obtain ⟨name, hnode⟩ := Program.mem_nodes_iff.mp hmem
  have hname : node.name = name := Program.wellKeyed_ofSource source name node hnode
  obtain ⟨hprogram, hlines⟩ := get?_ofSource source node.name
  rw [← hname, hprogram] at hnode
  obtain ⟨definition, heffective, hdefinition⟩ := Option.map_eq_some_iff.mp hnode
  refine ⟨definition, heffective, hdefinition, ?_⟩
  rw [headerLine, hlines, heffective]
  rfl

end Source.Compilation

theorem Session.start_shows_entry_iff {program : Program} (hprogram : program.WellKeyed)
    (options : Options) :
    ((start program options).phase = .running entryName ∧
        ∃ turn, (start program options).turns = [turn] ∧ turn.origin = .bot) ↔
      program.contains entryName = true := by
  rw [phase_start, turns_start, Program.contains_eq_isSome]
  change _ ↔ program.entry?.isSome = true
  cases hentry : program.entry? with
  | none => simp [Phase.ofFlow?]
  | some entry =>
      have hname : entry.name = entryName := hprogram entryName entry hentry
      simp [Phase.ofFlow?, hname, Turn.ofNode]

namespace Source.Compilation

/-- The diagnostics on targets are one for each button of the program whose press
gets the fallback, in any session over the program; each names the label, the flow
and the target, and stands at the header of the definition that gave the button.
There are no errors if and only if a new session shows the entry and no press of a
button gets the fallback. -/
theorem reports_each_fallback_once (source : String) (options : Options) :
    let compilation := ofSource source
    let program := compilation.program
    (∀ conversation : Conversation Turn,
      (compilation.diagnostics.filter fun diagnostic =>
          diagnostic.rule = "undefined-target").Perm
        ((program.offers.filter fun offer =>
          (Session.mk program options conversation).GetsFallback offer.2.target).map
            fun (node, button) =>
              ⟨compilation.headerLine node.name, .error, "undefined-target",
                "button '" ++ button.label ++ "' in flow '" ++ node.name ++
                  "' leads to undefined flow '" ++ button.target ++ "'"⟩)) ∧
      (∀ node ∈ program.nodes, ∃ definition,
        effective? node.name (definitions (readLines source)) = some definition ∧
          definition.node = node ∧ compilation.headerLine node.name = definition.line) ∧
      (compilation.hasErrors = false ↔
        ((Session.start program options).phase = .running entryName ∧
          ∃ turn, (Session.start program options).turns = [turn] ∧ turn.origin = .bot) ∧
        ∀ node ∈ program.nodes, ∀ button ∈ node.buttons,
          ∀ conversation : Conversation Turn,
            ¬ (Session.mk program options conversation).GetsFallback button.target) := by
  intro compilation program
  have hprogram : program.WellKeyed := Program.wellKeyed_ofSource source
  refine ⟨fun conversation => ?_, fun node => exists_definition_of_mem_nodes, ?_⟩
  · have hperm := compilation.filter_diagnostics_perm .undefinedTarget
    rw [findingsOf, undefinedTargets_eq, List.map_map] at hperm
    simp only [Function.comp_def, undefinedTargetAt, Finding.diagnostic] at hperm
    simp only [Session.getsFallback_iff]
    exact hperm
  · rw [hasErrors_eq_false_iff, Session.start_shows_entry_iff hprogram, undefinedTargets_eq,
      List.map_eq_nil_iff, List.filter_eq_nil_iff]
    simp only [Session.getsFallback_iff, decide_eq_true_iff]
    refine and_congr_right fun _ => ⟨fun hnone node hnode button hbutton _ => ?_, ?_⟩
    · exact hnone (node, button) (Program.mem_offers_iff.mpr ⟨hnode, hbutton⟩)
    · rintro hnone ⟨node, button⟩ hoffer
      obtain ⟨hnode, hbutton⟩ := Program.mem_offers_iff.mp hoffer
      exact hnone node hnode button hbutton {}

/-- A button that is offered twice is reported twice, and the handoff is not. -/
theorem reports_each_fallback_once_repeated :
    let source := "inicio:\nmensagem:\n\"Oi\"\nbotao 1:\n\"Ir\" -> nada\n" ++
      "\"Ir\" -> nada\n\"Humano\" -> atendimento_humano\n"
    ((ofSource source).diagnostics.filter fun diagnostic =>
        diagnostic.rule = "undefined-target") =
      List.replicate 2 ⟨1, .error, "undefined-target",
        "button 'Ir' in flow 'inicio' leads to undefined flow 'nada'"⟩ ∧
      (ofSource source).hasErrors = true := by
  intro source
  let node : Node :=
    ⟨entryName, "Oi", [⟨"Ir", "nada"⟩, ⟨"Ir", "nada"⟩, ⟨"Humano", handoffTarget⟩]⟩
  have hprogram : (ofSource source).program = Program.empty.insert node := by
    decide +kernel
  obtain ⟨hperm, -, herrors⟩ := reports_each_fallback_once source {}
  constructor
  · have hline : (ofSource source).headerLine node.name = 1 := by decide +kernel
    have hoffers : (ofSource source).program.offers.filter
        (fun offer => (Session.mk (ofSource source).program {} {}).GetsFallback offer.2.target) =
          List.replicate 2 (node, ⟨"Ir", "nada"⟩) := by
      rw [hprogram]
      decide
    have hreported := hperm {}
    rw [hoffers, List.map_replicate] at hreported
    dsimp only at hreported
    rw [hline] at hreported
    exact (List.perm_replicate.mp hreported).trans (by decide +kernel)
  · have hnode : node ∈ (ofSource source).program.nodes := by
      rw [hprogram]
      decide
    have hfallback : (Session.mk (ofSource source).program {} {}).GetsFallback "nada" := by
      rw [hprogram]
      decide
    rw [← Bool.not_eq_false, herrors]
    rintro ⟨-, hnone⟩
    exact hnone node hnode ⟨"Ir", "nada"⟩ List.mem_cons_self {} hfallback

end Source.Compilation

end ChatFlow

import ChatFlow.Diagnostic.Finding
import ChatFlow.Proofs.Diagnostic.Reach
import ChatFlow.Proofs.Session.Events

/-!
# What diagnostics say about presses

A diagnostic comes from one rule, which its identifier tells.  Without
diagnostics on targets every press of a button of the program leads somewhere,
and a diagnostic on reach names a flow that no presses reach.
-/

namespace ChatFlow

theorem Program.leads_eq_false_iff {program : Program} {target : String} :
    program.leads target = false ↔ program.FallsBack target := by
  simp [leads, FallsBack, contains_eq_isSome]

theorem Rule.mem_all (rule : Rule) : rule ∈ all := by
  cases rule <;> decide

theorem Rule.eq_of_id_eq {rule other : Rule} (hid : rule.id = other.id) : rule = other := by
  revert hid
  cases rule <;> cases other <;> decide

theorem Problem.message_unreachableFlow_inj {name other : String}
    (hmessage : (unreachableFlow name).message = (unreachableFlow other).message) :
    name = other := by
  simpa [message, ← String.toList_inj] using hmessage

namespace Source.Compilation

variable {compilation : Compilation}

theorem mem_missingEntry_iff {finding : Finding} :
    finding ∈ compilation.missingEntry ↔
      compilation.program.contains entryName = false ∧ Finding.mk 0 .missingEntry = finding := by
  unfold missingEntry
  split
  next hentry => simp [hentry]
  next hentry => simp [hentry, eq_comm]

theorem mem_undefinedTargets_iff {finding : Finding} :
    finding ∈ compilation.undefinedTargets ↔
      ∃ node ∈ compilation.program.nodes, ∃ button ∈ node.buttons,
        compilation.program.FallsBack button.target ∧
          Finding.mk (compilation.headerLine node.name)
            (.undefinedTarget button.label node.name button.target) = finding := by
  simp [undefinedTargets, Program.leads_eq_false_iff, and_assoc]

theorem mem_unreachableFlows_iff {finding : Finding} :
    finding ∈ compilation.unreachableFlows ↔
      compilation.program.contains entryName = true ∧
        ∃ name ∈ compilation.program.names, name ∉ compilation.program.reached ∧
          Finding.mk (compilation.headerLine name) (.unreachableFlow name) = finding := by
  unfold unreachableFlows
  split
  next hentry => simp [hentry, and_assoc]
  next hentry => simp [hentry]

theorem rule_of_mem_findingsOf {rule : Rule} {finding : Finding}
    (hmem : finding ∈ compilation.findingsOf rule) : finding.problem.rule = rule := by
  cases rule with
  | missingEntry =>
      obtain ⟨-, rfl⟩ := mem_missingEntry_iff.mp hmem
      rfl
  | undefinedTarget =>
      obtain ⟨node, -, button, -, -, rfl⟩ := mem_undefinedTargets_iff.mp hmem
      rfl
  | unreachableFlow =>
      obtain ⟨-, name, -, -, rfl⟩ := mem_unreachableFlows_iff.mp hmem
      rfl
  | skippedLine =>
      obtain ⟨note, -, rfl⟩ := List.mem_map.mp hmem
      rfl

theorem mem_findings_iff {finding : Finding} :
    finding ∈ compilation.findings ↔ ∃ rule, finding ∈ compilation.findingsOf rule := by
  simp [findings, List.mem_mergeSort, Rule.mem_all]

/-- The diagnostics with the identifier of a rule are those of its findings. -/
theorem mem_diagnostics_iff {rule : Rule} {diagnostic : Diagnostic} :
    diagnostic ∈ compilation.diagnostics ∧ diagnostic.rule = rule.id ↔
      ∃ finding ∈ compilation.findingsOf rule, finding.diagnostic = diagnostic := by
  constructor
  · rintro ⟨hmem, hid⟩
    obtain ⟨finding, hfinding, rfl⟩ := List.mem_map.mp hmem
    obtain ⟨other, hother⟩ := mem_findings_iff.mp hfinding
    have hrule : finding.problem.rule = rule := Rule.eq_of_id_eq hid
    rw [rule_of_mem_findingsOf hother] at hrule
    exact ⟨finding, hrule ▸ hother, rfl⟩
  · rintro ⟨finding, hfinding, rfl⟩
    refine ⟨List.mem_map_of_mem (mem_findings_iff.mpr ⟨rule, hfinding⟩), ?_⟩
    exact congrArg Rule.id (rule_of_mem_findingsOf hfinding)

theorem forall_rule_ne_undefinedTarget_iff :
    (∀ diagnostic ∈ compilation.diagnostics, diagnostic.rule ≠ Rule.undefinedTarget.id) ↔
      compilation.undefinedTargets = [] := by
  rw [List.eq_nil_iff_forall_not_mem]
  constructor
  · intro hclean finding hfinding
    obtain ⟨hmem, hrule⟩ := mem_diagnostics_iff.mpr
      ⟨finding, show finding ∈ compilation.findingsOf .undefinedTarget from hfinding, rfl⟩
    exact hclean _ hmem hrule
  · intro hnone diagnostic hmem hrule
    obtain ⟨finding, hfinding, -⟩ := mem_diagnostics_iff.mp ⟨hmem, hrule⟩
    exact hnone finding hfinding

theorem not_fallsBack_of_clean
    (hclean : ∀ diagnostic ∈ compilation.diagnostics,
      diagnostic.rule ≠ Rule.undefinedTarget.id)
    {node : Node} (hnode : node ∈ compilation.program.nodes) {button : Button}
    (hbutton : button ∈ node.buttons) : ¬ compilation.program.FallsBack button.target := by
  intro hfalls
  have hfinding := mem_undefinedTargets_iff.mpr ⟨node, hnode, button, hbutton, hfalls, rfl⟩
  rw [forall_rule_ne_undefinedTarget_iff.mp hclean] at hfinding
  simp at hfinding

/-- A flow that a diagnostic reports as out of reach is not reachable. -/
theorem not_reachable_of_reported {diagnostic : Diagnostic}
    (hmem : diagnostic ∈ compilation.diagnostics)
    (hrule : diagnostic.rule = Rule.unreachableFlow.id) {flow : String}
    (hmessage : diagnostic.message = (Problem.unreachableFlow flow).message) :
    ¬ compilation.program.Reachable flow := by
  intro hreachable
  obtain ⟨finding, hfinding, rfl⟩ := mem_diagnostics_iff.mp ⟨hmem, hrule⟩
  obtain ⟨-, name, -, hunmet, rfl⟩ := mem_unreachableFlows_iff.mp hfinding
  obtain rfl := Problem.message_unreachableFlow_inj hmessage
  exact hunmet hreachable.mem_reached

end Source.Compilation

end ChatFlow

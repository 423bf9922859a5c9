import ChatFlow.Proofs.Diagnostic.Targets
import ChatFlow.Proofs.Source.Notes

/-!
# How diagnostics are listed

The findings of the rules are sorted by line and severity, and those of one line
and one severity stay in the order in which the rules made them.  All of them
but the missing entry stand at a line of the source, since a flow of the program
has the header line of its definition and notes are made on lines only.
-/

namespace ChatFlow

/-! ## Order -/

/-- Items that are in order among themselves keep their places among each other
when the list they are selected from is sorted. -/
theorem filter_mergeSort {α : Type} {precedes : α → α → Bool}
    (htrans : ∀ a b c, precedes a b = true → precedes b c = true → precedes a c = true)
    (htotal : ∀ a b, (precedes a b || precedes b a) = true) {keep : α → Bool} {items : List α}
    (hordered : (items.filter keep).Pairwise fun a b => precedes a b = true) :
    (items.mergeSort precedes).filter keep = items.filter keep := by
  have hkept := (List.sublist_mergeSort htrans htotal hordered List.filter_sublist).filter keep
  have hsublist : (items.filter keep).Sublist ((items.mergeSort precedes).filter keep) := by
    simpa using hkept
  have hperm := (List.mergeSort_perm items precedes).filter keep
  exact (hsublist.eq_of_length hperm.length_eq.symm).symm

namespace Finding

theorem precedes_iff {a b : Finding} :
    a.precedes b = true ↔
      a.line < b.line ∨ a.line = b.line ∧ a.problem.severity.rank ≤ b.problem.severity.rank := by
  simp [precedes]

theorem precedes_trans (a b c : Finding) (hab : a.precedes b = true)
    (hbc : b.precedes c = true) : a.precedes c = true := by
  rw [precedes_iff] at *
  omega

theorem precedes_total (a b : Finding) : (a.precedes b || b.precedes a) = true := by
  rw [Bool.or_eq_true, precedes_iff, precedes_iff]
  omega

end Finding

/-- The diagnostics of a list in order by line and severity; those of one line
and one severity keep the order of the list. -/
structure Diagnostic.SortOf (sorted listed : List Diagnostic) : Prop where
  perm : sorted.Perm listed
  ordered : sorted.Pairwise fun a b =>
    a.line < b.line ∨ a.line = b.line ∧ a.severity.rank ≤ b.severity.rank
  ties : ∀ line severity,
    sorted.filter (fun diagnostic => diagnostic.line = line ∧ diagnostic.severity = severity) =
      listed.filter fun diagnostic => diagnostic.line = line ∧ diagnostic.severity = severity

namespace Source.Compilation

theorem sortOf_diagnostics (compilation : Compilation) :
    Diagnostic.SortOf compilation.diagnostics (compilation.listing.map Finding.diagnostic) where
  perm := (List.mergeSort_perm compilation.listing Finding.precedes).map Finding.diagnostic
  ordered := by
    have hsorted := List.pairwise_mergeSort Finding.precedes_trans Finding.precedes_total
      compilation.listing
    exact List.pairwise_map.mpr (hsorted.imp Finding.precedes_iff.mp)
  ties line severity := by
    have htied : (compilation.listing.filter fun finding =>
        finding.line = line ∧ finding.problem.severity = severity).Pairwise
          fun a b => a.precedes b = true := by
      apply List.pairwise_of_forall_mem_list
      intro a ha b hb
      simp only [List.mem_filter, decide_eq_true_eq] at ha hb
      rw [Finding.precedes_iff, ha.2.1, hb.2.1, ha.2.2, hb.2.2]
      exact Or.inr ⟨rfl, Nat.le_refl _⟩
    have hsame := filter_mergeSort Finding.precedes_trans Finding.precedes_total htied
    unfold diagnostics
    rw [List.filter_map, List.filter_map]
    exact congrArg (List.map Finding.diagnostic) hsame

end Source.Compilation

/-! ## Places -/

namespace Source

theorem number_pos_of_mem_lines {source : String} {line : Line} (hmem : line ∈ lines source) :
    0 < line.number := by
  obtain ⟨⟨raw, number⟩, hraw, hline⟩ := List.mem_filterMap.mp hmem
  rw [Line.number_of_ofText? hline]
  exact List.le_snd_of_mem_zipIdx hraw

/-- A header of the flow stands at this line, and the definition of the flow in
the program is the one that it starts. -/
def StartsAt (source flow : String) (number : Nat) : Prop :=
  ∃ definition, effective? flow (definitions (readLines source)) = some definition ∧
    definition.line = number ∧
      ∃ header ∈ lines source, header.construct.flow? = some flow ∧ header.number = number

theorem StartsAt.pos {source flow : String} {number : Nat}
    (hstarts : StartsAt source flow number) : 0 < number := by
  obtain ⟨-, -, -, header, hheader, -, rfl⟩ := hstarts
  exact number_pos_of_mem_lines hheader

namespace Compilation

variable {source : String}

theorem exists_headerLine_of_contains {flow : String}
    (hflow : (ofSource source).program.contains flow = true) :
    ∃ number, (ofSource source).headerLines.get? flow = some number ∧
      StartsAt source flow number := by
  rw [(contains_ofSource source flow).1] at hflow
  obtain ⟨definition, heffective⟩ := Option.isSome_iff_exists.mp hflow
  obtain ⟨hmem, hname, -⟩ := name_of_effective? heffective
  obtain ⟨header, hheader, hconstruct, hnumber, -⟩ := exists_header_of_mem_definitions hmem
  refine ⟨definition.line, ?_, definition, heffective, rfl, header,
    mem_lines_of_mem_readLines hheader, hname ▸ hconstruct, hnumber⟩
  rw [(get?_ofSource source flow).2, heffective]
  rfl

theorem startsAt_headerLine {flow : String}
    (hflow : (ofSource source).program.contains flow = true) :
    StartsAt source flow ((ofSource source).headerLine flow) := by
  obtain ⟨number, hnumber, hstarts⟩ := exists_headerLine_of_contains hflow
  rwa [headerLine, hnumber, Option.getD_some]

theorem contains_name_of_mem_nodes {node : Node}
    (hnode : node ∈ (ofSource source).program.nodes) :
    (ofSource source).program.contains node.name = true := by
  obtain ⟨name, hfiled⟩ := Program.mem_nodes_iff.mp hnode
  exact (Program.wellKeyed_ofSource source).contains_name hfiled

theorem line_pos_of_mem_notes {note : Note} (hmem : note ∈ (ofSource source).notes) :
    0 < note.line := by
  have hnumber := (map_line_notes_ofSource_subperm source).subset (List.mem_map_of_mem hmem)
  obtain ⟨line, hline, heq⟩ := List.mem_map.mp hnumber
  rw [← heq]
  exact number_pos_of_mem_lines (mem_lines_of_mem_readLines hline)

/-! ## What each rule reports -/

section

variable {diagnostic : Diagnostic} (hmem : diagnostic ∈ (ofSource source).diagnostics)

include hmem

theorem eq_of_rule_missingEntry (hrule : diagnostic.rule = Rule.missingEntry.id) :
    diagnostic =
      ⟨0, .error, "missing-entry",
        "no '" ++ entryName ++ "' flow with a message is defined"⟩ := by
  obtain ⟨finding, hfinding, rfl⟩ := mem_diagnostics_iff.mp ⟨hmem, hrule⟩
  obtain ⟨-, rfl⟩ := mem_missingEntry_iff.mp hfinding
  rfl

theorem exists_button_of_rule_undefinedTarget
    (hrule : diagnostic.rule = Rule.undefinedTarget.id) :
    ∃ node ∈ (ofSource source).program.nodes, ∃ button ∈ node.buttons,
      (ofSource source).program.FallsBack button.target ∧
        diagnostic =
          ⟨diagnostic.line, .error, "undefined-target",
            "button '" ++ button.label ++ "' in flow '" ++ node.name ++
              "' leads to undefined flow '" ++ button.target ++ "'"⟩ ∧
        StartsAt source node.name diagnostic.line := by
  obtain ⟨finding, hfinding, rfl⟩ := mem_diagnostics_iff.mp ⟨hmem, hrule⟩
  obtain ⟨node, hnode, button, hbutton, hfalls, rfl⟩ := mem_undefinedTargets_iff.mp hfinding
  have hstarts := startsAt_headerLine (contains_name_of_mem_nodes hnode)
  -- As a variable, the number is not unfolded down to the rows of the source.
  generalize (ofSource source).headerLine node.name = number at hstarts ⊢
  exact ⟨node, hnode, button, hbutton, hfalls, rfl, hstarts⟩

theorem exists_flow_of_rule_unreachableFlow
    (hrule : diagnostic.rule = Rule.unreachableFlow.id) :
    ∃ flow ∈ (ofSource source).program.names,
      ¬ (ofSource source).program.Reachable flow ∧
        diagnostic =
          ⟨diagnostic.line, .warning, "unreachable-flow",
            "flow '" ++ flow ++ "' is not reachable from '" ++ entryName ++ "'"⟩ ∧
        StartsAt source flow diagnostic.line := by
  obtain ⟨finding, hfinding, rfl⟩ := mem_diagnostics_iff.mp ⟨hmem, hrule⟩
  obtain ⟨-, flow, hflow, hunmet, rfl⟩ := mem_unreachableFlows_iff.mp hfinding
  have hstarts := startsAt_headerLine (Program.mem_names_iff.mp hflow)
  generalize (ofSource source).headerLine flow = number at hstarts ⊢
  exact ⟨flow, hflow, fun hreachable => hunmet hreachable.mem_reached, rfl, hstarts⟩

theorem line_pos_of_rule_skippedLine (hrule : diagnostic.rule = Rule.skippedLine.id) :
    0 < diagnostic.line := by
  obtain ⟨finding, hfinding, rfl⟩ := mem_diagnostics_iff.mp ⟨hmem, hrule⟩
  obtain ⟨note, hnote, rfl⟩ := List.mem_map.mp hfinding
  exact line_pos_of_mem_notes hnote

theorem line_eq_zero_iff : diagnostic.line = 0 ↔ diagnostic.rule = "missing-entry" := by
  obtain ⟨finding, hfinding, heq⟩ := List.mem_map.mp hmem
  obtain ⟨rule, hrule⟩ := mem_findings_iff.mp hfinding
  have hid : diagnostic.rule = rule.id := by
    rw [← heq]
    exact congrArg Rule.id (rule_of_mem_findingsOf hrule)
  have hmissing : rule = .missingEntry ↔ rule.id = Rule.missingEntry.id :=
    ⟨congrArg Rule.id, Rule.eq_of_id_eq⟩
  rw [hid]
  refine Iff.trans ?_ hmissing
  cases rule with
  | missingEntry =>
      rw [eq_of_rule_missingEntry hmem hid]
      exact iff_of_true rfl rfl
  | undefinedTarget =>
      obtain ⟨_, _, _, _, _, _, hstarts⟩ := exists_button_of_rule_undefinedTarget hmem hid
      exact iff_of_false (Nat.ne_of_gt hstarts.pos) nofun
  | unreachableFlow =>
      obtain ⟨_, _, _, _, hstarts⟩ := exists_flow_of_rule_unreachableFlow hmem hid
      exact iff_of_false (Nat.ne_of_gt hstarts.pos) nofun
  | skippedLine =>
      exact iff_of_false (Nat.ne_of_gt (line_pos_of_rule_skippedLine hmem hid)) nofun

end

/-- Only the first diagnostic can be without a line. -/
theorem line_ne_zero_of_mem_tail {diagnostic : Diagnostic}
    (hmem : diagnostic ∈ (ofSource source).diagnostics.tail) : diagnostic.line ≠ 0 := by
  have hperm : ((ofSource source).diagnostics.filter fun other =>
      other.rule = "missing-entry").Perm
        ((ofSource source).missingEntry.map Finding.diagnostic) :=
    (ofSource source).filter_diagnostics_perm .missingEntry
  have hordered := (ofSource source).sortOf_diagnostics.ordered
  have hzero (other : Diagnostic) (hother : other ∈ (ofSource source).diagnostics) :
      other.line = 0 ↔ other.rule = "missing-entry" := line_eq_zero_iff hother
  have hfew : (ofSource source).missingEntry.length ≤ 1 := by
    unfold missingEntry
    split <;> simp
  generalize (ofSource source).diagnostics = diagnostics at *
  cases diagnostics with
  | nil => exact absurd hmem List.not_mem_nil
  | cons first rest =>
      intro hline
      have hfirst : first.line = 0 := by
        have hplace := (List.pairwise_cons.mp hordered).1 diagnostic hmem
        omega
      have hrest : diagnostic ∈ rest.filter fun other => other.rule = "missing-entry" := by
        rw [List.mem_filter, decide_eq_true_iff]
        exact ⟨hmem, (hzero diagnostic (List.mem_cons_of_mem _ hmem)).mp hline⟩
      have hlength := hperm.length_eq
      rw [List.filter_cons_of_pos (by simpa using (hzero first List.mem_cons_self).mp hfirst),
        List.length_cons, List.length_map] at hlength
      have hpos := List.length_pos_of_mem hrest
      omega

/-- The findings on skipped lines are in order, so sorting leaves them so. -/
theorem filter_findings_skippedLine (source : String) :
    ((ofSource source).findings.filter fun finding => finding.problem.rule = .skippedLine) =
      (ofSource source).skippedLines := by
  have hlisted : (ofSource source).listing.filter
      (fun finding => finding.problem.rule = .skippedLine) = (ofSource source).skippedLines :=
    filter_listing (ofSource source) .skippedLine
  have hordered : (ofSource source).skippedLines.Pairwise fun a b => a.precedes b = true := by
    apply List.pairwise_map.mpr
    apply (sorted_notes_ofSource source).imp
    intro a b hle
    rw [Finding.precedes_iff]
    exact (Nat.lt_or_eq_of_le hle).imp_right fun heq => ⟨heq, Nat.le_refl _⟩
  have hsame := filter_mergeSort Finding.precedes_trans Finding.precedes_total
    (hlisted.symm ▸ hordered)
  exact hsame.trans hlisted

/-- The diagnostics of a source are what its rules find, sorted by line and
severity without moving those of one line and one severity.  Only a missing entry
is without a line, and it comes first.  What is found in a flow names the flow and
stands at the header of its definition in the program, and skipped lines are told
as they were noted.  No flow of the program is without a header line. -/
theorem diagnostics_sorted_and_placed (source : String) :
    Diagnostic.SortOf (ofSource source).diagnostics
        ([Rule.missingEntry, .undefinedTarget, .unreachableFlow, .skippedLine].flatMap
          fun rule => ((ofSource source).findingsOf rule).map Finding.diagnostic) ∧
      (∀ diagnostic ∈ (ofSource source).diagnostics,
        (diagnostic.line = 0 ↔ diagnostic.rule = "missing-entry") ∧
          (diagnostic.line = 0 ↔
            diagnostic =
              ⟨0, .error, "missing-entry",
                "no '" ++ entryName ++ "' flow with a message is defined"⟩)) ∧
      (∀ diagnostic ∈ (ofSource source).diagnostics.tail, diagnostic.rule ≠ "missing-entry") ∧
      (∀ diagnostic ∈ (ofSource source).diagnostics, diagnostic.rule = "undefined-target" →
        ∃ node ∈ (ofSource source).program.nodes, ∃ button ∈ node.buttons,
          (ofSource source).program.FallsBack button.target ∧
            diagnostic =
              ⟨diagnostic.line, .error, "undefined-target",
                "button '" ++ button.label ++ "' in flow '" ++ node.name ++
                  "' leads to undefined flow '" ++ button.target ++ "'"⟩ ∧
            StartsAt source node.name diagnostic.line) ∧
      (∀ diagnostic ∈ (ofSource source).diagnostics, diagnostic.rule = "unreachable-flow" →
        ∃ flow ∈ (ofSource source).program.names,
          ¬ (ofSource source).program.Reachable flow ∧
            diagnostic =
              ⟨diagnostic.line, .warning, "unreachable-flow",
                "flow '" ++ flow ++ "' is not reachable from '" ++ entryName ++ "'"⟩ ∧
            StartsAt source flow diagnostic.line) ∧
      ((ofSource source).diagnostics.filter fun diagnostic => diagnostic.rule = "skipped-line") =
        (ofSource source).notes.map (fun note =>
          ⟨note.line, .warning, "skipped-line", note.cause.message⟩) ∧
      (∀ name ∈ (ofSource source).program.names,
        ((ofSource source).headerLines.get? name).isSome) ∧
      ∀ node ∈ (ofSource source).program.nodes,
        ((ofSource source).headerLines.get? node.name).isSome := by
  let compilation := ofSource source
  have hfiled {flow : String} (hflow : compilation.program.contains flow = true) :
      (compilation.headerLines.get? flow).isSome = true := by
    obtain ⟨number, hnumber, -⟩ := exists_headerLine_of_contains hflow
    rw [hnumber, Option.isSome_some]
  refine ⟨?_, fun diagnostic hmem => ⟨line_eq_zero_iff hmem, fun hline => ?_, fun heq => ?_⟩,
    fun diagnostic hmem => ?_, fun diagnostic => exists_button_of_rule_undefinedTarget,
    fun diagnostic => exists_flow_of_rule_unreachableFlow, ?_, fun name hname => ?_,
    fun node hnode => ?_⟩
  · have hlisted : compilation.listing.map Finding.diagnostic =
        Rule.all.flatMap fun rule => (compilation.findingsOf rule).map Finding.diagnostic :=
      List.map_flatMap
    exact hlisted ▸ sortOf_diagnostics compilation
  · exact eq_of_rule_missingEntry hmem ((line_eq_zero_iff hmem).mp hline)
  · rw [heq]
  · have hzero := line_eq_zero_iff (List.mem_of_mem_tail hmem)
    exact hzero.not.mp (line_ne_zero_of_mem_tail hmem)
  · have hskipped := compilation.filter_diagnostics_eq .skippedLine
    rw [filter_findings_skippedLine, skippedLines, List.map_map] at hskipped
    exact hskipped
  · exact hfiled (Program.mem_names_iff.mp hname)
  · exact hfiled (contains_name_of_mem_nodes hnode)

/-- A button of a flow that was defined again is reported at the second header,
below the missing entry. -/
theorem diagnostics_sorted_and_placed_redefined :
    let source := "fluxo a:\nmensagem:\n\"Um\"\nfluxo a:\nmensagem:\n\"Dois\"\n" ++
      "botao 1:\n\"Ir\" -> nada\n"
    let missing : Diagnostic :=
      ⟨0, .error, "missing-entry", "no 'inicio' flow with a message is defined"⟩
    let loose : Diagnostic :=
      ⟨4, .error, "undefined-target", "button 'Ir' in flow 'a' leads to undefined flow 'nada'"⟩
    missing ∈ (ofSource source).diagnostics ∧ loose ∈ (ofSource source).diagnostics ∧
      missing ∉ (ofSource source).diagnostics.tail ∧
        ∃ node ∈ (ofSource source).program.nodes, ∃ button ∈ node.buttons,
          loose.message = "button '" ++ button.label ++ "' in flow '" ++ node.name ++
            "' leads to undefined flow '" ++ button.target ++ "'" ∧
            StartsAt source node.name 4 := by
  intro source missing loose
  obtain ⟨-, -, htail, hplaced, -⟩ := diagnostics_sorted_and_placed source
  let node : Node := ⟨"a", "Dois", [⟨"Ir", "nada"⟩]⟩
  have hprogram : (ofSource source).program = Program.empty.insert node := by decide +kernel
  have hline : (ofSource source).headerLine node.name = 4 := by decide +kernel
  have hentry : ⟨0, .missingEntry⟩ ∈ (ofSource source).findingsOf .missingEntry :=
    mem_missingEntry_iff.mpr ⟨by rw [hprogram]; decide, rfl⟩
  have hbutton : ⟨4, .undefinedTarget "Ir" "a" "nada"⟩ ∈
      (ofSource source).findingsOf .undefinedTarget := by
    refine mem_undefinedTargets_iff.mpr ⟨node, ?_, ⟨"Ir", "nada"⟩, List.mem_cons_self, ?_, ?_⟩
    · rw [hprogram]
      decide
    · rw [hprogram]
      decide
    · rw [hline]
  obtain ⟨hmissing, -⟩ :=
    mem_diagnostics_iff.mpr ⟨_, hentry, show Finding.diagnostic _ = missing by decide +kernel⟩
  obtain ⟨hloose, -⟩ :=
    mem_diagnostics_iff.mpr ⟨_, hbutton, show Finding.diagnostic _ = loose by decide +kernel⟩
  obtain ⟨node, hnode, button, hmem, -, heq, hstarts⟩ := hplaced loose hloose rfl
  exact ⟨hmissing, hloose, fun hmem => htail missing hmem rfl, node, hnode, button, hmem,
    congrArg Diagnostic.message heq, hstarts⟩

end Compilation

end Source

end ChatFlow

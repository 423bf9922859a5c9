import ChatFlow.Proofs.Diagnostic.Finding
import Mathlib.Data.List.Chain
import Mathlib.Data.List.Nodup
import Mathlib.Logic.Function.Iterate

/-!
# The search for flows out of reach

The search takes one name at a time off a queue of flows.  A flow may wait there
more than once, but the flows that its buttons lead to join the queue only when
it is met first.  So each step leaves one flow less to look at, and the search
is over after as many steps as there are buttons between flows, and one.  What
it has met then are the ends of the chains of buttons that start at the entry;
the other flows of the program are reported in the order of their names.
-/

namespace ChatFlow

namespace Program

/-! ## Chains of buttons -/

/-- Some button of the node that is filed under the name leads to the target. -/
def LeadsTo (program : Program) (name target : String) : Prop :=
  ∃ node, program.get? name = some node ∧ ∃ button ∈ node.buttons, button.target = target

/-- Flows of the program from the entry to the given one, of which each leads to
the next. -/
structure IsChain (program : Program) (flow : String) (chain : List String) : Prop where
  head : chain.head? = some entryName
  last : chain.getLast? = some flow
  filed : ∀ name ∈ chain, program.contains name = true
  linked : chain.IsChain program.LeadsTo

theorem IsChain.append {program : Program} {flow next : String} {chain : List String}
    (hchain : program.IsChain flow chain) (hleads : program.LeadsTo flow next)
    (hnext : program.contains next = true) : program.IsChain next (chain ++ [next]) where
  head := by
    rw [List.head?_append, hchain.head]
    rfl
  last := List.getLast?_concat
  filed name hmem := by
    rcases List.mem_append.mp hmem with hold | hnew
    · exact hchain.filed name hold
    · rwa [List.mem_singleton.mp hnew]
  linked := by
    refine List.isChain_append.mpr ⟨hchain.linked, .singleton next, ?_⟩
    intro last hlast first hfirst
    rw [hchain.last] at hlast
    obtain rfl := Option.some.inj hlast
    obtain rfl := Option.some.inj hfirst
    exact hleads

theorem IsChain.reachable {program : Program} {flow : String} {chain : List String}
    (hchain : program.IsChain flow chain) : program.Reachable flow := by
  have hflow : flow ∈ chain := List.mem_of_getLast? hchain.last
  refine hchain.linked.induction
    (fun name => program.contains name = true → program.Reachable name) chain
    ?_ ?_ flow hflow (hchain.filed flow hflow)
  · rintro name next ⟨node, hnode, button, hbutton, rfl⟩ hname hnext
    obtain ⟨other, hother⟩ := contains_iff.mp hnext
    exact (hname (contains_iff.mpr ⟨_, hnode⟩)).press hnode hbutton hother
  · intro hsome hfiled
    have hhead : chain.head hsome = entryName :=
      Option.some.inj ((List.head?_eq_some_head hsome).symm.trans hchain.head)
    rw [hhead] at hfiled ⊢
    obtain ⟨node, hnode⟩ := contains_iff.mp hfiled
    exact .entry hnode

theorem reachable_iff_exists_chain {program : Program} {flow : String} :
    program.Reachable flow ↔ ∃ chain, program.IsChain flow chain := by
  constructor
  · intro hreachable
    induction hreachable with
    | entry hnode =>
        refine ⟨[entryName], rfl, rfl, fun name hmem => ?_, .singleton entryName⟩
        rw [List.mem_singleton.mp hmem]
        exact contains_iff.mpr ⟨_, hnode⟩
    | press hname hnode hbutton hnext ih =>
        obtain ⟨chain, hchain⟩ := ih
        exact ⟨_, hchain.append ⟨_, hnode, _, hbutton, rfl⟩ (contains_iff.mpr ⟨_, hnext⟩)⟩
  · rintro ⟨chain, hchain⟩
    exact hchain.reachable

/-! ## Steps of the search -/

/-- The flows that the buttons of a flow lead to, once for each button. -/
def flowsAfter (program : Program) (name : String) : List String :=
  match program.get? name with
  | none => []
  | some node => (node.buttons.map (·.target)).filter program.contains

/-- The flows that the buttons of the program lead to, once for each button. -/
def links (program : Program) : List String :=
  program.names.flatMap program.flowsAfter

/-- How far the search has come. -/
structure Search where
  met : List String := []
  queue : List String := [entryName]

namespace Search

/-- Looks at the first flow of the queue: if it was not met before, it is met and
the flows that its buttons lead to join the queue. -/
def next (program : Program) (search : Search) : Search :=
  match search.queue with
  | [] => search
  | name :: queue =>
      if name ∈ search.met then { search with queue }
      else { met := name :: search.met, queue := queue ++ program.flowsAfter name }

/-- How many flows are still looked at, at most: those in the queue and those that
the flows not met yet lead to. -/
def rest (program : Program) (search : Search) : Nat :=
  search.queue.length +
    ((program.names.filter (· ∉ search.met)).flatMap program.flowsAfter).length

variable {program : Program} {met queue : List String} {name : String}

theorem next_of_met (hmet : name ∈ met) :
    next program ⟨met, name :: queue⟩ = ⟨met, queue⟩ :=
  if_pos hmet

theorem next_of_fresh (hfresh : name ∉ met) :
    next program ⟨met, name :: queue⟩ = ⟨name :: met, queue ++ program.flowsAfter name⟩ :=
  if_neg hfresh

theorem rest_of_met : rest program ⟨met, name :: queue⟩ = rest program ⟨met, queue⟩ + 1 := by
  simp only [rest, List.length_cons]
  omega

theorem unmet_perm (hname : name ∈ program.names) (hfresh : name ∉ met) :
    (program.names.filter (· ∉ met)).Perm
      (name :: program.names.filter (· ∉ name :: met)) := by
  have hmem : name ∈ program.names.filter (· ∉ met) := by simp [hname, hfresh]
  have hnodup : (program.names.filter (· ∉ met)).Nodup :=
    (NameMap.names_nodup program.flows).filter _
  have herase : (program.names.filter (· ∉ met)).erase name =
      program.names.filter (· ∉ name :: met) := by
    rw [hnodup.erase_eq_filter, List.filter_filter]
    apply List.filter_congr
    intro other _
    rw [Bool.eq_iff_iff]
    simp
  rw [← herase]
  exact List.perm_cons_erase hmem

theorem rest_of_fresh (hname : name ∈ program.names) (hfresh : name ∉ met) :
    rest program ⟨met, name :: queue⟩ =
      rest program ⟨name :: met, queue ++ program.flowsAfter name⟩ + 1 := by
  have hunmet := ((unmet_perm hname hfresh).flatMap_right program.flowsAfter).length_eq
  rw [List.flatMap_cons, List.length_append] at hunmet
  simp only [rest, List.length_cons, List.length_append]
  omega

/-- The search comes to what the walk finds, in no more steps than flows are
still looked at. -/
theorem exists_iterate_next (program : Program) (met queue : List String) :
    ∃ count ≤ rest program ⟨met, queue.filter program.contains⟩,
      (next program)^[count] ⟨met, queue.filter program.contains⟩ =
        ⟨program.walk met queue, []⟩ := by
  -- What waits for the walk and is no flow does not wait for the search.
  fun_induction walk program met queue with
  | case1 met => exact ⟨0, Nat.zero_le _, rfl⟩
  | case2 met head queue hhead ih =>
      have hmissing : ¬ program.contains head = true := by simp [contains_eq_isSome, hhead]
      rwa [List.filter_cons_of_neg hmissing]
  | case3 met head queue node hhead hmet ih =>
      obtain ⟨count, hcount, hend⟩ := ih
      rw [List.filter_cons_of_pos (contains_iff.mpr ⟨_, hhead⟩)]
      refine ⟨count + 1, ?_, ?_⟩
      · rw [rest_of_met]
        omega
      · rw [Function.iterate_succ_apply, next_of_met hmet, hend]
  | case4 met head queue node hhead hfresh ih =>
      obtain ⟨count, hcount, hend⟩ := ih
      have hafter : (node.buttons.map (·.target)).filter program.contains =
          program.flowsAfter head := by
        rw [flowsAfter, hhead]
      rw [List.filter_append, hafter] at hcount hend
      rw [List.filter_cons_of_pos (contains_iff.mpr ⟨_, hhead⟩)]
      refine ⟨count + 1, ?_, ?_⟩
      · rw [rest_of_fresh (mem_names_iff.mpr (contains_iff.mpr ⟨_, hhead⟩)) hfresh]
        omega
      · rw [Function.iterate_succ_apply, next_of_fresh hfresh, hend]

theorem exists_iterate_eq_reached (hentry : program.contains entryName = true) :
    ∃ count ≤ program.links.length + 1,
      (next program)^[count] {} = ⟨program.reached, []⟩ := by
  obtain ⟨count, hcount, hend⟩ := exists_iterate_next program [] [entryName]
  rw [List.filter_cons_of_pos hentry, List.filter_nil] at hcount hend
  refine ⟨count, ?_, hend⟩
  have hrest : rest program ⟨[], [entryName]⟩ = program.links.length + 1 := by
    simp [rest, links, Nat.add_comm]
  rwa [hrest] at hcount

end Search

end Program

namespace Source.Compilation

/-- For every program with an entry the search is over after a bounded number of
steps, and the flows that no chain of buttons leads to from the entry are
reported, each once and in the order of their names.  Without an entry none is
reported. -/
theorem reports_unchained_flows (compilation : Compilation) :
    let program := compilation.program
    let flows := program.names.filter (· ∉ program.reached)
    (program.contains entryName = true →
      (∃ count ≤ program.links.length + 1,
        (Program.Search.next program)^[count] {} = ⟨program.reached, []⟩) ∧
      ((compilation.findingsOf .unreachableFlow).map Finding.diagnostic =
        flows.map fun name =>
          ⟨compilation.headerLine name, .warning, "unreachable-flow",
            "flow '" ++ name ++ "' is not reachable from '" ++ entryName ++ "'"⟩) ∧
      flows.Pairwise (· < ·) ∧
      ∀ name, name ∈ flows ↔
        name ∈ program.names ∧ ¬ ∃ chain, program.IsChain name chain) ∧
    (program.contains entryName = false → compilation.findingsOf .unreachableFlow = []) := by
  intro program flows
  constructor
  · intro hentry
    refine ⟨Program.Search.exists_iterate_eq_reached hentry, ?_, ?_, fun name => ?_⟩
    · rw [findingsOf, unreachableFlows, if_pos hentry, List.map_map]
      rfl
    · exact (NameMap.names_increasing program.flows).filter _
    · rw [List.mem_filter, ← Program.reachable_iff_exists_chain, ← Program.mem_reached_iff,
        decide_eq_true_eq]
  · intro hentry
    rw [findingsOf, unreachableFlows, if_neg (by simp [program, hentry])]

/-- Buttons go round here, lead to one flow twice and to none, and one flow is
left out of reach. -/
theorem reports_unchained_flows_cycle :
    let program : Program := ⟨NameMap.ofList
      [(entryName, ⟨entryName, "Oi",
          [⟨"Planos", "planos"⟩, ⟨"Preços", "planos"⟩, ⟨"Ajuda", "ajuda"⟩]⟩),
        ("planos", ⟨"planos", "Dois", [⟨"Voltar", entryName⟩, ⟨"De novo", "planos"⟩]⟩),
        ("solto", ⟨"outro", "Só", [⟨"Planos", "planos"⟩]⟩)]⟩
    let compilation : Compilation := ⟨program, [], NameMap.empty.insert "solto" 12⟩
    program.contains entryName = true ∧
      (∃ count ≤ 6, (Program.Search.next program)^[count] {} = ⟨program.reached, []⟩) ∧
      (¬ ∃ chain, program.IsChain "solto" chain) ∧
      (compilation.findingsOf .unreachableFlow).map Finding.diagnostic =
        [⟨12, .warning, "unreachable-flow",
          "flow 'solto' is not reachable from 'inicio'"⟩] := by
  intro program compilation
  have hentry : program.contains entryName = true := by decide
  obtain ⟨hsearch, hreport, -, hexact⟩ := (reports_unchained_flows compilation).1 hentry
  -- The bound leaves few steps to try for the end of the search.
  have hmet : ∀ count ≤ 6, ((Program.Search.next program)^[count] {}).queue = [] →
      ((Program.Search.next program)^[count] {}).met = ["planos", entryName] := by
    decide +kernel
  have hreached : program.reached = ["planos", entryName] := by
    obtain ⟨count, hcount, hend⟩ := hsearch
    have hlast := hmet count hcount
    rw [hend] at hlast
    exact hlast rfl
  have hflows : program.names.filter (· ∉ program.reached) = ["solto"] := by
    rw [hreached]
    decide +kernel
  refine ⟨hentry, hsearch, ?_, ?_⟩
  · exact ((hexact "solto").mp (hflows ▸ List.mem_singleton_self _)).2
  · exact hreport.trans ((congrArg _ hflows).trans (by decide +kernel))

end Source.Compilation

end ChatFlow

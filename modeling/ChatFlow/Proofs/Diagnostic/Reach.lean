import ChatFlow.Diagnostic.Reach

/-!
# The walk finds what buttons reach

A flow is reachable if presses lead from the entry to it through flows of the
program.  The walk keeps a list of names and a queue; the targets of the names
it keeps are kept as well or wait in the queue, unless they are no flows.  Once
the queue is empty, the names it keeps are closed under presses.  What it keeps
on the way is reachable, so it finds the reachable flows and no others.
-/

namespace ChatFlow.Program

/-- Presses lead from the entry to the flow. -/
inductive Reachable (program : Program) : String → Prop
  | entry {node : Node} (hnode : program.get? entryName = some node) :
      program.Reachable entryName
  | press {name : String} {node next : Node} {button : Button}
      (hname : program.Reachable name) (hnode : program.get? name = some node)
      (hbutton : button ∈ node.buttons) (hnext : program.get? button.target = some next) :
      program.Reachable button.target

theorem Reachable.mem_names {program : Program} {name : String}
    (hreachable : program.Reachable name) : name ∈ program.names := by
  rw [mem_names_iff, contains_iff]
  cases hreachable with
  | entry hnode => exact ⟨_, hnode⟩
  | press _ _ _ hnext => exact ⟨_, hnext⟩

/-- The targets of the names met are met, wait in the queue or are no flows. -/
def Covers (program : Program) (met queue : List String) : Prop :=
  ∀ name ∈ met, ∀ node, program.get? name = some node → ∀ button ∈ node.buttons,
    button.target ∈ met ∨ button.target ∈ queue ∨ program.get? button.target = none

theorem mem_walk_of_mem_met (program : Program) (met queue : List String) {name : String}
    (hmem : name ∈ met) : name ∈ program.walk met queue := by
  fun_induction walk program met queue with
  | case1 met => exact hmem
  | case2 met head queue hhead ih => exact ih hmem
  | case3 met head queue node hhead hmet ih => exact ih hmem
  | case4 met head queue node hhead hfresh ih => exact ih (List.mem_cons_of_mem head hmem)

theorem mem_walk_of_mem_queue (program : Program) (met queue : List String) {name : String}
    (hmem : name ∈ queue) {node : Node} (hnode : program.get? name = some node) :
    name ∈ program.walk met queue := by
  fun_induction walk program met queue with
  | case1 met => simp at hmem
  | case2 met head queue hhead ih =>
      rcases List.mem_cons.mp hmem with rfl | hmem
      · rw [hnode] at hhead
        contradiction
      · exact ih hmem
  | case3 met head queue other hhead hmet ih =>
      rcases List.mem_cons.mp hmem with rfl | hmem
      · exact program.mem_walk_of_mem_met met queue hmet
      · exact ih hmem
  | case4 met head queue other hhead hfresh ih =>
      rcases List.mem_cons.mp hmem with rfl | hmem
      · exact program.mem_walk_of_mem_met _ _ List.mem_cons_self
      · exact ih (List.mem_append_left _ hmem)

theorem Covers.skip {program : Program} {met queue : List String} {head : String}
    (hcovers : program.Covers met (head :: queue))
    (hhead : head ∈ met ∨ program.get? head = none) : program.Covers met queue := by
  intro name hname node hnode button hbutton
  rcases hcovers name hname node hnode button hbutton with hmet | hqueue | hnone
  · exact Or.inl hmet
  · rcases List.mem_cons.mp hqueue with heq | hqueue
    · rcases heq ▸ hhead with hmet | hnone
      · exact Or.inl hmet
      · exact Or.inr (Or.inr hnone)
    · exact Or.inr (Or.inl hqueue)
  · exact Or.inr (Or.inr hnone)

theorem Covers.keep {program : Program} {met queue : List String} {head : String} {node : Node}
    (hcovers : program.Covers met (head :: queue)) (hhead : program.get? head = some node) :
    program.Covers (head :: met) (queue ++ node.buttons.map (·.target)) := by
  intro name hname other hother button hbutton
  rcases List.mem_cons.mp hname with rfl | hname
  · obtain rfl : node = other := Option.some.inj (hhead.symm.trans hother)
    exact Or.inr (Or.inl (List.mem_append_right _ (List.mem_map_of_mem hbutton)))
  · rcases hcovers name hname other hother button hbutton with hmet | hqueue | hnone
    · exact Or.inl (List.mem_cons_of_mem head hmet)
    · rcases List.mem_cons.mp hqueue with heq | hqueue
      · exact Or.inl (heq ▸ List.mem_cons_self)
      · exact Or.inr (Or.inl (List.mem_append_left _ hqueue))
    · exact Or.inr (Or.inr hnone)

theorem Covers.walk {program : Program} {met queue : List String}
    (hcovers : program.Covers met queue) : program.Covers (program.walk met queue) [] := by
  fun_induction Program.walk program met queue with
  | case1 met => exact hcovers
  | case2 met head queue hhead ih => exact ih (hcovers.skip (Or.inr hhead))
  | case3 met head queue node hhead hmet ih => exact ih (hcovers.skip (Or.inl hmet))
  | case4 met head queue node hhead hfresh ih => exact ih (hcovers.keep hhead)

/-- What is reachable is found. -/
theorem Reachable.mem_reached {program : Program} {name : String}
    (hreachable : program.Reachable name) : name ∈ program.reached := by
  have hcovers : program.Covers program.reached [] := by
    apply Covers.walk
    intro other hmem
    simp at hmem
  induction hreachable with
  | entry hnode => exact program.mem_walk_of_mem_queue [] [entryName] (by simp) hnode
  | press _ hnode hbutton hnext ih =>
      rcases hcovers _ ih _ hnode _ hbutton with hmet | hqueue | hnone
      · exact hmet
      · simp at hqueue
      · rw [hnext] at hnone
        contradiction

theorem reachable_of_mem_walk {program : Program} {met queue : List String}
    (hmet : ∀ name ∈ met, program.Reachable name)
    (hqueue : ∀ name ∈ queue, ∀ node, program.get? name = some node → program.Reachable name)
    {name : String} (hmem : name ∈ program.walk met queue) : program.Reachable name := by
  fun_induction walk program met queue with
  | case1 met => exact hmet name hmem
  | case2 met head queue hhead ih =>
      exact ih hmet (fun other hother => hqueue other (List.mem_cons_of_mem head hother)) hmem
  | case3 met head queue node hhead hseen ih =>
      exact ih hmet (fun other hother => hqueue other (List.mem_cons_of_mem head hother)) hmem
  | case4 met head queue node hhead hfresh ih =>
      have hreachable := hqueue head List.mem_cons_self node hhead
      apply ih ?_ ?_ hmem
      · intro other hother
        rcases List.mem_cons.mp hother with rfl | hother
        · exact hreachable
        · exact hmet other hother
      · intro other hother next hnext
        rcases List.mem_append.mp hother with hwaiting | htarget
        · exact hqueue other (List.mem_cons_of_mem head hwaiting) next hnext
        · obtain ⟨button, hbutton, rfl⟩ := List.mem_map.mp htarget
          exact hreachable.press hhead hbutton hnext

theorem mem_reached_iff {program : Program} {name : String} :
    name ∈ program.reached ↔ program.Reachable name := by
  constructor
  · intro hmem
    refine reachable_of_mem_walk (by simp) ?_ hmem
    intro other hother node hnode
    obtain rfl := List.mem_singleton.mp hother
    exact .entry hnode
  · exact Reachable.mem_reached

end ChatFlow.Program

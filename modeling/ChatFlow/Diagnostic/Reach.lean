import ChatFlow.Program

/-!
# Flows that chains of buttons reach

The flows reached from the entry are found by working off a queue of names:
a name that is filed in the program and was not met before is kept, and the
targets of its buttons join the queue.  Every name is kept at most once, so
the walk ends whatever cycles the buttons form.
-/

namespace ChatFlow.Program

/-- Adds to the names met so far all names of the program that the queue
leads to. -/
def walk (program : Program) (met : List String) : List String → List String
  | [] => met
  | name :: queue =>
      match _hname : program.get? name with
      | none => walk program met queue
      | some node =>
          if name ∈ met then walk program met queue
          else walk program (name :: met) (queue ++ node.buttons.map (·.target))
termination_by queue =>
  ((program.names.filter (· ∉ met)).length, queue.length)
decreasing_by
  · exact Prod.Lex.right _ (by simp)
  · exact Prod.Lex.right _ (by simp)
  · apply Prod.Lex.left
    have hfiled : name ∈ program.names := by
      rw [mem_names_iff, contains_eq_isSome, _hname]
      rfl
    have hfresh : name ∈ program.names.filter (· ∉ met) := by simp [*]
    have hsplit :
        program.names.filter (· ∉ name :: met) =
          (program.names.filter (· ∉ met)).filter (· ≠ name) := by
      rw [List.filter_filter]
      apply List.filter_congr
      intro other _
      simp
    rw [hsplit]
    refine Nat.lt_of_le_of_ne (List.length_filter_le _ _) fun heq => ?_
    have hall := List.length_filter_eq_length_iff.mp heq name hfresh
    simp at hall

/-- The flows that some chain of buttons reaches from the entry. -/
def reached (program : Program) : List String :=
  program.walk [] [entryName]

end ChatFlow.Program

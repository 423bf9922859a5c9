import ChatFlow.Name
import ChatFlow.NameMap

/-!
# Programs

A program files nodes under flow names.  A node holds one message and the
buttons offered below it; a button leads to the flow named by its target.
Programs read from elsewhere may file a node under another name than its own,
so the name a node is filed under and the name inside it are kept apart.
-/

namespace ChatFlow

structure Button where
  label : String
  target : String
deriving DecidableEq, Repr, Inhabited

/-- One message of a conversation with the buttons offered below it. -/
structure Node where
  name : String
  message : String
  buttons : List Button
deriving DecidableEq, Repr, Inhabited

/-- The flows of a conversation, at most one under each name. -/
structure Program where
  flows : NameMap Node
deriving DecidableEq, Repr, Inhabited

namespace Program

def empty : Program where
  flows := .empty

def get? (program : Program) (name : String) : Option Node :=
  program.flows.get? name

def contains (program : Program) (name : String) : Bool :=
  program.flows.contains name

/-- The node that opens a conversation, if there is one. -/
def entry? (program : Program) : Option Node :=
  program.get? entryName

/-- The nodes in the order of the names they are filed under. -/
def nodes (program : Program) : List Node :=
  program.flows.values

def names (program : Program) : List String :=
  program.flows.names

def size (program : Program) : Nat :=
  program.flows.size

def isEmpty (program : Program) : Bool :=
  program.flows.isEmpty

/-- Files a node under its own name, in place of an earlier one. -/
def insert (program : Program) (node : Node) : Program where
  flows := program.flows.insert node.name node

/-- Every node is filed under its own name. -/
def WellKeyed (program : Program) : Prop :=
  ∀ name node, program.get? name = some node → node.name = name

@[simp] theorem get?_empty (name : String) : empty.get? name = none := rfl

theorem get?_insert (program : Program) (node : Node) (name : String) :
    (program.insert node).get? name =
      if name = node.name then some node else program.get? name :=
  NameMap.get?_insert program.flows node.name name node

theorem WellKeyed.insert {program : Program} (hprogram : program.WellKeyed) (node : Node) :
    (program.insert node).WellKeyed := by
  intro name other hother
  rw [get?_insert] at hother
  split at hother
  next hname => rw [← Option.some.inj hother, hname]
  next => exact hprogram name other hother

theorem contains_eq_isSome (program : Program) (name : String) :
    program.contains name = (program.get? name).isSome := rfl

theorem contains_iff {program : Program} {name : String} :
    program.contains name = true ↔ ∃ node, program.get? name = some node := by
  rw [contains_eq_isSome, Option.isSome_iff_exists]

theorem WellKeyed.contains_name {program : Program} (hprogram : program.WellKeyed)
    {name : String} {node : Node} (hnode : program.get? name = some node) :
    program.contains node.name = true := by
  rw [hprogram name node hnode]
  exact contains_iff.mpr ⟨node, hnode⟩

theorem mem_names_iff {program : Program} {name : String} :
    name ∈ program.names ↔ program.contains name = true :=
  NameMap.mem_names_iff

theorem mem_nodes_iff {program : Program} {node : Node} :
    node ∈ program.nodes ↔ ∃ name, program.get? name = some node := by
  simp [nodes, NameMap.values, get?, NameMap.get?_eq_some_iff]

theorem ext_get? {program other : Program}
    (h : ∀ name, program.get? name = other.get? name) : program = other := by
  cases program
  cases other
  exact congrArg mk (NameMap.ext_get? h)

end Program

end ChatFlow

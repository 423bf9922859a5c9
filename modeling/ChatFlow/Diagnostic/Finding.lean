import ChatFlow.Diagnostic.Problem
import ChatFlow.Diagnostic.Reach
import ChatFlow.Source.Compilation

/-!
# What the rules find in a compilation

Rules are independent of each other and only read the compilation.  Their
findings are listed by line and severity; those of one place stay in the
order of the rules, and within a rule in the order of the program.
-/

namespace ChatFlow

/-- Whether pressing a button with this target leads anywhere. -/
def Program.leads (program : Program) (target : String) : Bool :=
  target = handoffTarget || program.contains target

namespace Source.Compilation

/-- The header line of a flow, and line zero for a flow without one. -/
def headerLine (compilation : Compilation) (name : String) : Nat :=
  (compilation.headerLines.get? name).getD 0

def missingEntry (compilation : Compilation) : List Finding :=
  if compilation.program.contains entryName then [] else [⟨0, .missingEntry⟩]

/-- One finding for each button that leads nowhere. -/
def undefinedTargets (compilation : Compilation) : List Finding :=
  compilation.program.nodes.flatMap fun node =>
    (node.buttons.filter fun button => !compilation.program.leads button.target).map
      fun button =>
        ⟨compilation.headerLine node.name,
          .undefinedTarget button.label node.name button.target⟩

/-- One finding for each flow out of reach; none if there is no entry. -/
def unreachableFlows (compilation : Compilation) : List Finding :=
  if compilation.program.contains entryName then
    let reached := compilation.program.reached
    (compilation.program.names.filter (· ∉ reached)).map fun name =>
      ⟨compilation.headerLine name, .unreachableFlow name⟩
  else []

def skippedLines (compilation : Compilation) : List Finding :=
  compilation.notes.map fun note => ⟨note.line, .skippedLine note.cause⟩

/-- What one rule finds. -/
def findingsOf (compilation : Compilation) : Rule → List Finding
  | .missingEntry => compilation.missingEntry
  | .undefinedTarget => compilation.undefinedTargets
  | .unreachableFlow => compilation.unreachableFlows
  | .skippedLine => compilation.skippedLines

/-- What all rules find, by line and severity. -/
def findings (compilation : Compilation) : List Finding :=
  (Rule.all.flatMap compilation.findingsOf).mergeSort Finding.precedes

def diagnostics (compilation : Compilation) : List Diagnostic :=
  compilation.findings.map Finding.diagnostic

/-- Whether something found will make the conversation misbehave. -/
def hasErrors (compilation : Compilation) : Bool :=
  compilation.diagnostics.any Diagnostic.isError

end Source.Compilation

end ChatFlow

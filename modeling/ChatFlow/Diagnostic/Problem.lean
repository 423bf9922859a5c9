import ChatFlow.Diagnostic.Basic
import ChatFlow.Name
import ChatFlow.Source.Note

/-!
# Problems that diagnostics report

Each rule looks for one kind of problem.  A finding is a problem at a line;
its rule, severity and wording follow from the problem.
-/

namespace ChatFlow

inductive Rule
  | missingEntry
  | undefinedTarget
  | unreachableFlow
  | skippedLine
deriving DecidableEq, Repr

namespace Rule

/-- All rules, in the order in which findings of one place are listed. -/
def all : List Rule :=
  [.missingEntry, .undefinedTarget, .unreachableFlow, .skippedLine]

def id : Rule → String
  | .missingEntry => "missing-entry"
  | .undefinedTarget => "undefined-target"
  | .unreachableFlow => "unreachable-flow"
  | .skippedLine => "skipped-line"

def description : Rule → String
  | .missingEntry => "Programs must define an 'inicio' flow with a message"
  | .undefinedTarget => "Buttons must lead to a defined flow or to the human handoff"
  | .unreachableFlow => "Every flow should be reachable from 'inicio'"
  | .skippedLine => "Lines the compiler could not use"

end Rule

inductive Problem
  /-- No flow opens the conversation. -/
  | missingEntry
  /-- A button leads to no flow and not to the handoff. -/
  | undefinedTarget (label flow target : String)
  /-- No chain of buttons leads from the entry to the flow. -/
  | unreachableFlow (name : String)
  /-- A construct of the source was skipped. -/
  | skippedLine (cause : Source.Cause)
deriving DecidableEq, Repr

namespace Problem

def rule : Problem → Rule
  | .missingEntry => .missingEntry
  | .undefinedTarget .. => .undefinedTarget
  | .unreachableFlow _ => .unreachableFlow
  | .skippedLine _ => .skippedLine

def severity : Problem → Severity
  | .missingEntry | .undefinedTarget .. => .error
  | .unreachableFlow _ | .skippedLine _ => .warning

def message : Problem → String
  | .missingEntry => "no '" ++ entryName ++ "' flow with a message is defined"
  | .undefinedTarget label flow target =>
      "button '" ++ label ++ "' in flow '" ++ flow ++
        "' leads to undefined flow '" ++ target ++ "'"
  | .unreachableFlow name =>
      "flow '" ++ name ++ "' is not reachable from '" ++ entryName ++ "'"
  | .skippedLine cause => cause.message

end Problem

/-- A problem and the line it is found at. -/
structure Finding where
  line : Nat
  problem : Problem
deriving DecidableEq, Repr

namespace Finding

def diagnostic (finding : Finding) : Diagnostic where
  line := finding.line
  severity := finding.problem.severity
  rule := finding.problem.rule.id
  message := finding.problem.message

/-- By line, then by severity. -/
def precedes (a b : Finding) : Bool :=
  a.line < b.line ||
    a.line = b.line && a.problem.severity.rank ≤ b.problem.severity.rank

end Finding

end ChatFlow

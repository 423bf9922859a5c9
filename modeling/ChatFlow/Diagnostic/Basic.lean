/-!
# Diagnostics

A diagnostic points at a source line, or at line zero when it has no place,
and names the rule that made it.  Diagnostics are ordered by line and then by
severity, the gravest first.
-/

namespace ChatFlow

inductive Severity
  /-- The conversation will misbehave. -/
  | error
  /-- Probably not what the author meant. -/
  | warning
  /-- Something that could be better. -/
  | hint
deriving DecidableEq, Repr, Inhabited

namespace Severity

def rank : Severity → Nat
  | .error => 0
  | .warning => 1
  | .hint => 2

instance : LT Severity where
  lt a b := a.rank < b.rank

instance (a b : Severity) : Decidable (a < b) :=
  inferInstanceAs (Decidable (a.rank < b.rank))

def label : Severity → String
  | .error => "error"
  | .warning => "warning"
  | .hint => "hint"

end Severity

structure Diagnostic where
  line : Nat
  severity : Severity
  /-- The identifier of the rule. -/
  rule : String
  message : String
deriving DecidableEq, Repr

namespace Diagnostic

def isError (diagnostic : Diagnostic) : Bool :=
  diagnostic.severity = .error

/-- The diagnostic on one line of output; line zero is not mentioned. -/
def display (diagnostic : Diagnostic) : String :=
  let place := if diagnostic.line = 0 then "" else " at line " ++ toString diagnostic.line
  diagnostic.severity.label ++ place ++ ": " ++ diagnostic.message ++
    " [" ++ diagnostic.rule ++ "]"

end Diagnostic

end ChatFlow

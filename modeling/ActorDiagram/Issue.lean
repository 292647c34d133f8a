/-!
Findings that do not stop a diagram from being made, and the rules by which a log drops them or
treats them as errors.
-/

namespace ActorDiagram

/-- Finding about the source, before the rules of a log are applied to it. -/
structure Finding where
  code : String
  message : String
  line : Option Int
  hint : Option String
  deriving Repr, DecidableEq

namespace Finding

def unknownSource : String := "W_UNKNOWN_SOURCE"

def unknownTarget : String := "W_UNKNOWN_TARGET"

def unresolvedCall : String := "W_UNRESOLVED_CALL"

def clauseNoAction : String := "W_CLAUSE_NO_ACTION"

def codes : List String := [unknownSource, unknownTarget, unresolvedCall, clauseNoAction]

end Finding

inductive Severity where
  | warning
  | error
  deriving Repr, DecidableEq

def Severity.name : Severity → String
  | .warning => "warning"
  | .error => "error"

/-- Finding that a log has kept. -/
structure Issue extends Finding where
  severity : Severity
  deriving Repr, DecidableEq

/-- One line for the user. An empty hint is not shown. -/
def Issue.display (issue : Issue) : String :=
  let place := match issue.line with
    | some line => "line " ++ toString line ++ ": "
    | none => ""
  let hint := match issue.hint with
    | some hint => if hint.isEmpty then "" else " (hint: " ++ hint ++ ")"
    | none => ""
  place ++ issue.message ++ hint

/-- Codes to drop, and codes to treat as errors. A code in both is dropped. -/
structure IssueRules where
  ignore : List String := []
  escalate : List String := []
  deriving Repr, DecidableEq

namespace IssueRules

def issue? (rules : IssueRules) (f : Finding) : Option Issue :=
  if rules.ignore.contains f.code then none
  else some ⟨f, if rules.escalate.contains f.code then .error else .warning⟩

def apply (rules : IssueRules) (fs : List Finding) : List Issue := fs.filterMap rules.issue?

end IssueRules

def Issue.errors (issues : List Issue) : List Issue := issues.filter (·.severity == .error)

def Issue.warnings (issues : List Issue) : List Issue := issues.filter (·.severity == .warning)

end ActorDiagram

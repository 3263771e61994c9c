import VarsAdvisor.Text.WideText

/-!
# Findings

A finding is what a checker has to say about one line of a document.
-/

namespace VarsAdvisor

open VarsAdvisor.Text

/-- How serious a finding is. -/
inductive Severity where
  | error
  | warning
  deriving DecidableEq, Repr

/-- The name of a severity. -/
def Severity.name : Severity → String
  | .error => "error"
  | .warning => "warning"

/-- A remark of a tool about a line. -/
structure Finding where
  tool : String
  line : Nat
  column : Option Nat
  severity : Severity
  message : WideText
  rule : Option String
  deriving DecidableEq, Repr

/-- The text shown beside the line: the message behind the tool's name. -/
def Finding.annotationText (f : Finding) : WideText :=
  s!"[{f.tool}]: " ++ f.message

end VarsAdvisor

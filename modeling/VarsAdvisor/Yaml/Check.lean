import VarsAdvisor.Yaml.Build
import VarsAdvisor.Finding.Basic

/-!
# Syntax check of a YAML text

The first problem of a text as YAML, as a finding at its line and column. A problem without a place
is shown on the first line. A mishap is not a problem of the text and is passed on.
-/

namespace VarsAdvisor.Yaml

/-- The tool that findings of this check name. -/
def toolName : String := "yaml"

/-- Reads a whole text: its nodes, then their values. -/
def readText (text : List Char) : Except Failure Unit := do
  let (events, _) := eventsOf text
  let (nodes, root) ← compose text
  let oldVersion := (events.getLast?.bind (·.2)) == some (1, 1)
  match root with
  | none => pure ()
  | some root => checkValues nodes oldVersion root

/-- The finding about a problem. -/
def findingOf (text : List Char) (p : Problem) (place : Option Nat) : Finding :=
  match place with
  | none => ⟨toolName, 1, none, .error, p.message, none⟩
  | some offset =>
    let (line, column) := position text offset
    ⟨toolName, line + 1, some (column + 1), .error, p.message, none⟩

/-- The first problem of a text, if it has one. -/
def check (text : String) : Except Mishap (Option Finding) :=
  match readText text.toList with
  | .ok _ => .ok none
  | .error (.problem p place) => .ok (some (findingOf text.toList p place))
  | .error (.mishap m) => .error m

end VarsAdvisor.Yaml

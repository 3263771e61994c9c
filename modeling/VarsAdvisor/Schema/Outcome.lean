import VarsAdvisor.Tool.Run
import VarsAdvisor.Text.Blank
import VarsAdvisor.Text.LineBreak

/-!
# Outcome of a schema validation

The validator's report is a banner, a failure marker if the document was rejected, and then the
error lines, with a header line before those of each document.
-/

namespace VarsAdvisor

open VarsAdvisor.Text

/-- What the schema validator found. -/
inductive Outcome where
  | success (message : String)
  | schemaFailure (errors : List String) (rawMessage : String)
  | toolError (tool : String) (rawMessage : String)
  deriving DecidableEq, Repr

namespace Outcome

/-- The name of the schema validator. -/
def validatorName : String := "yamale"

/-- The text that says that the document was rejected. -/
def failureMarker : String := "Validation failed!"

/-- The start of the line above a document's errors. -/
def reportHeader : String := "Error validating data"

/-- The start of the banner's lines. -/
def bannerStart : String := "Validating "

/-- The message of a success that printed nothing else. -/
def defaultSuccess : String := "Validation success!"

/-- The lines of a text that are not blank, trimmed. -/
def contentLines (text : String) : List String :=
  ((splitLines text.toList).map trim).filter (· ≠ []) |>.map String.ofList

/-- What follows the first line that holds the failure marker. -/
def afterMarker : List String → List String
  | [] => []
  | line :: rest => if Text.contains line failureMarker then rest else afterMarker rest

/-- The line starts with the given text. -/
def startsWith (line start : String) : Bool :=
  start.toList.isPrefixOf line.toList

/-- The error lines of a failure report. -/
def extractErrors (stdout : String) : List String :=
  (afterMarker (contentLines stdout)).filter fun line => !startsWith line reportHeader

/-- The rejection of a document with these errors. -/
def rejection (errors : List String) : Outcome :=
  .schemaFailure errors (joined "\n" errors)

/-- The last two items. -/
def lastTwo (xs : List String) : List String :=
  xs.drop (xs.length - 2)

/-- What a run of the validator says. The failure marker decides before anything on the error
stream, and that before the return code. -/
def ofRun (run : ToolRun) : Outcome :=
  if Text.contains run.stdout failureMarker then rejection (extractErrors run.stdout)
  else if contentLines run.stderr ≠ [] then
    .toolError validatorName (joined "\n" (lastTwo (contentLines run.stderr)))
  else if run.returncode ≠ 0 then
    let said := trimmed run.stdout
    .toolError validatorName (if said = "" then s!"exited with status {run.returncode}" else said)
  else
    let summary := (contentLines run.stdout).filter fun line => !startsWith line bannerStart
    .success (summary.headD defaultSuccess)

/-- The document conforms. -/
def passed : Outcome → Bool
  | .success _ => true
  | _ => false

/-- The errors to show. -/
def errors : Outcome → List String
  | .schemaFailure errors _ => errors
  | _ => []

end Outcome

end VarsAdvisor

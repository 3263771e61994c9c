import VarsAdvisor.Schema.Outcome

/-!
# The schema validator

The command that checks a document against a schema, and the outcome of what became of it. A
validator that could not be run is an outcome too.
-/

namespace VarsAdvisor

/-- The command that checks a document against a schema. -/
def validationArgv (executable : String) (schema document : Path) : List String :=
  [executable, "-s", schema.text, "-v", document.text]

namespace Outcome

/-- The outcome of what became of a run. -/
def ofReply : Except ToolFailure ToolRun → Outcome
  | .ok run => ofRun run
  | .error failure => .toolError validatorName failure.detail

/-- What is said about a document without a schema. -/
def noSchemaMessage : String := "No validation schema found for this document"

/-- The outcome for a document without a schema. -/
def noSchema : Outcome :=
  .toolError validatorName noSchemaMessage

end Outcome

end VarsAdvisor

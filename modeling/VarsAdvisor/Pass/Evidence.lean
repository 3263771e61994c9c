import VarsAdvisor.Pass.Basic

/-!
# Gathering evidence

The work of a pass as a script: the syntax check, then the validator, then the chat model if there
are errors, then the linters if the document is a YAML file. A tool that cannot be run is evidence,
and so is a model that fails; all else that breaks off a request ends the script.
-/

namespace VarsAdvisor

open VarsAdvisor.Suggestion

/-- The advice that the end of a request to the model gives. An error is handled: the advice is the
validator's own then. -/
def adviceOn (policy : Policy) (errors : List String) : Except Break Completion → Script Advice
  | .ok completion => .done (Advice.ofAnswer policy errors (some completion))
  | .error (.error _ _) => .done (Advice.ofAnswer policy errors none)
  | .error b => .ofBreak b

/-- Asks a chat model for one suggestion per error. Without errors or without a model it is not
asked. -/
def askAdvice (hasModel : Bool) (policy : Policy) (errors : List String) (d : Document)
    (context : Context) : Script Advice :=
  if errors = [] then .done Advice.empty
  else if hasModel then
    .model (prompt errors d.numbered context) (adviceOn policy errors)
  else .done (Advice.ofAnswer policy errors none)

namespace Crew

/-- Checks a document against its schema, if it has one. -/
def validate (crew : Crew) (a : Assignment) : Script Outcome :=
  match a.schema with
  | none => .done .noSchema
  | some schema =>
    .tool (validationArgv crew.validator schema a.checked) fun reply => .done (.ofReply reply)

/-- Lines and suggestions of the validator's errors, and who worded the suggestions. -/
def explain (crew : Crew) (a : Assignment) (d : Document) (outcome : Outcome) :
    Script (List SchemaAnnotation × Option Source) :=
  match outcome.errors with
  | [] => .done ([], none)
  | errors => do
    let advice ← askAdvice crew.hasModel crew.policy errors d a.context
    let lines ← Script.ofExcept .position (d.resolveErrors errors)
    let located := (errors.zip lines).zip advice.suggestions
    pure (located.map fun ((error, line), suggestion) => ⟨error, line, suggestion⟩,
      some advice.source)

/-- The report of one linter, without the findings that are left out. -/
def lintWith (crew : Crew) (a : Assignment) (l : Linter) : Script LintReport :=
  .tool (l.argv a.checked) fun reply =>
    Script.ofExcept .numeral ((l.report reply).map (·.suppress crew.keywords))

/-- The reports of linters, one after the other. -/
def lintAll (crew : Crew) (a : Assignment) : List Linter → Script (List LintReport)
  | [] => .done []
  | l :: rest => do
    let report ← crew.lintWith a l
    let reports ← crew.lintAll a rest
    pure (report :: reports)

/-- The reports of all linters; documents that are no YAML files are not linted. -/
def lint (crew : Crew) (a : Assignment) : Script (List LintReport) :=
  if a.document.isYaml then crew.lintAll a crew.linters else .done []

/-- Gathers the evidence about a document that reads `d`. -/
def gather (crew : Crew) (a : Assignment) (d : Document) : Script Evidence := do
  let syntaxFinding ← Script.ofExcept .yaml (Yaml.check d.joinedText)
  let outcome ← crew.validate a
  let (schema, source) ← crew.explain a d outcome
  let lint ← crew.lint a
  pure ⟨outcome, schema, source, syntaxFinding, lint⟩

end Crew

end VarsAdvisor

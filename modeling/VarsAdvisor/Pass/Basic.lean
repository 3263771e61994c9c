import VarsAdvisor.Editor.Overlay
import VarsAdvisor.Finding.Linter
import VarsAdvisor.Pass.Script
import VarsAdvisor.Schema.Validator
import VarsAdvisor.Yaml.Check

/-!
# Passes over a document

A pass checks a document against its schema, checks its syntax, asks for suggestions and lints it.
What it found is turned into annotations in this order, so that on a line with several the schema's
errors come before syntax, and that before the linters' findings.
-/

namespace VarsAdvisor

open VarsAdvisor.Suggestion VarsAdvisor.Text

/-- Who checks: the validator's command, the linters, whether there is a chat model and what its
suggestions are worth, and the words of findings that are left out. -/
structure Crew where
  validator : String
  linters : List Linter
  hasModel : Bool
  policy : Policy
  keywords : List String

/-- What is checked: a document, by the schema, from the file at `source` if its text is not saved,
and what the chat model is told beside the errors. -/
structure Assignment where
  document : Path
  schema : Option Path
  context : Context
  source : Option Path
  deriving Repr

/-- The file that the tools see. -/
def Assignment.checked (a : Assignment) : Path :=
  a.source.getD a.document

/-- A validation error with its line and the suggestion for it. -/
structure SchemaAnnotation where
  error : String
  line : Nat
  suggestion : WideText
  deriving DecidableEq, Repr

/-- What a pass found. -/
structure Evidence where
  outcome : Outcome
  schema : List SchemaAnnotation
  source : Option Source
  syntaxFinding : Option Finding
  lint : List LintReport
  deriving Repr

/-- The annotation that shows a finding. -/
def Finding.annotation (f : Finding) : Annotation :=
  ⟨f.line, f.annotationText, f.tool⟩

/-- The annotation that shows a suggestion. -/
def SchemaAnnotation.annotation (a : SchemaAnnotation) : Annotation :=
  ⟨a.line, a.suggestion, Outcome.validatorName⟩

/-- All annotations that a pass wants to make, the most important first. -/
def Evidence.annotations (e : Evidence) : List Annotation :=
  e.schema.map SchemaAnnotation.annotation ++
    e.syntaxFinding.toList.map Finding.annotation ++
    e.lint.flatMap fun r => r.findings.map Finding.annotation

/-- What is told about a pass: what it found, and the annotations that are shown. -/
structure PassReport where
  document : Path
  evidence : Evidence
  annotations : List Annotation
  deriving Repr

/-- The document conforms to its schema. -/
def PassReport.passed (r : PassReport) : Bool :=
  r.evidence.outcome.passed

end VarsAdvisor

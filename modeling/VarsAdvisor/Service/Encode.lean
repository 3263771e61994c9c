import VarsAdvisor.Service.Answer

/-!
# Answers as JSON

The form in which answers leave the service. Every report lists all its fields; what is not there is
null.
-/

namespace VarsAdvisor

open VarsAdvisor.Text

/-- A text or null. -/
def Json.ofText? (s : Option String) : Json :=
  match s with
  | some s => .str s
  | none => .null

/-- A number or null. -/
def Json.ofNat? (n : Option Nat) : Json :=
  (n.map fun n => Json.int n).getD .null

/-! ## Reports -/

/-- An annotation as JSON. -/
def Annotation.json (a : Annotation) : Json :=
  .obj [("line", .int a.line), ("text", .str a.text), ("source", .str a.source)]

/-- A marker as JSON. -/
def Marker.json (m : Marker) : Json :=
  .obj [("line", .int m.line), ("column", .int m.column), ("text", .str m.text),
    ("hover", .str m.hover)]

/-- A finding by fields. -/
def Finding.fields (f : Finding) : List (WideText × Json) :=
  [("tool", .str f.tool), ("line", .int f.line), ("column", .ofNat? f.column),
    ("severity", .str f.severity.name), ("message", .str f.message), ("rule", .ofText? f.rule)]

/-- A finding as JSON. -/
def Finding.json (f : Finding) : Json :=
  .obj f.fields

/-- A linter's report as JSON. -/
def LintReport.json (r : LintReport) : Json :=
  .obj [("tool", .str r.tool), ("output", .str r.output),
    ("findings", .arr (r.findings.map Finding.json)), ("suppressed", .int r.suppressed),
    ("error", .ofText? r.error)]

/-- The outcome of a schema validation as JSON. -/
def Outcome.json : Outcome → Json
  | .success message => .obj [("kind", .str "success"), ("message", .str message)]
  | .schemaFailure errors raw =>
    .obj [("kind", .str "schema_failure"), ("errors", .ofTexts errors),
      ("raw_message", .str raw)]
  | .toolError tool raw =>
    .obj [("kind", .str "tool_error"), ("tool", .str tool), ("raw_message", .str raw)]

/-- An explained error as JSON. -/
def SchemaAnnotation.json (a : SchemaAnnotation) : Json :=
  .obj [("error", .str a.error), ("line", .int a.line), ("suggestion", .str a.suggestion)]

/-- The report on a pass by fields. -/
def PassReport.fields (r : PassReport) : List (WideText × Json) :=
  let e := r.evidence
  [("document", .str r.document.text), ("outcome", e.outcome.json),
    ("schema_annotations", .arr (e.schema.map SchemaAnnotation.json)),
    ("suggestion_source", .ofText? (e.source.map (·.name))),
    ("syntax", (e.syntaxFinding.map Finding.json).getD .null),
    ("lint", .arr (e.lint.map LintReport.json)),
    ("annotations", .arr (r.annotations.map Annotation.json))]

/-- The report on a pass as JSON. -/
def PassReport.json (r : PassReport) : Json :=
  .obj r.fields

/-! ## Faults of forms -/

/-- A step to a part of a form as JSON. -/
def Form.Place.json : Form.Place → Json
  | .field name => .str name
  | .item index => .int index

/-- What a complaint says beside its wording. -/
def Form.Cause.details : Form.Cause → List (WideText × Json)
  | .tooShort least => [("ctx", .obj [("min_length", .int least)])]
  | _ => []

/-- A complaint about a part of a request as JSON. -/
def Form.Complaint.json (part : String) (c : Form.Complaint) : Json :=
  let members : List (WideText × Json) :=
    [("type", .str c.cause.code), ("loc", .arr (.str part :: c.place.map Form.Place.json)),
      ("msg", .str c.cause.message), ("input", c.input)]
  .obj (members ++ c.cause.details)

/-- A fault of the text of a body as JSON. -/
def Json.Fault.json (f : Json.Fault) (offset : Nat) : Json :=
  .obj [("type", .str "json_invalid"), ("loc", .arr [.str Validation.bodyPart, .int offset]),
    ("msg", .str "JSON decode error"), ("input", .obj []),
    ("ctx", .obj [("error", .str f.message)])]

/-! ## Responses -/

/-- What is sent back: JSON or plain text. -/
inductive Content where
  | json (v : Json)
  | text (s : String)
  deriving Repr

/-- A status and what is sent back with it. -/
structure Response where
  status : Nat
  content : Content
  deriving Repr

namespace Response

/-- The response when something unexpected happened. -/
def failure : Response :=
  ⟨500, .text "Internal Server Error"⟩

/-- A response with JSON, if that can be sent. -/
def ofJson (status : Nat) (v : Json) : Response :=
  if v.isSendable then ⟨status, .json v⟩ else failure

/-- A response that gives a reason. -/
def reason (status : Nat) (detail : Json) : Response :=
  ofJson status (.obj [("detail", detail)])

end Response

/-- The response to a request that cannot be read. -/
def Unread.response : Unread → Response
  | .complaints part cs => .reason 422 (.arr (cs.map (·.json part)))
  | .syntaxFault f offset => .reason 422 (.arr [f.json offset])
  | .unreadable => .reason 400 (.str "There was an error parsing the body")

/-- The response to a request that is rejected. -/
def Rejection.response : Rejection → Response
  | .stray .unknownPath => .reason 404 (.str "Not Found")
  | .stray .wrongMethod => .reason 405 (.str "Method Not Allowed")
  | .stray .slashed => ⟨307, .text ""⟩
  | .unread u => u.response
  | .documentNotFound name => .reason 404 (.str s!"Document not found: {name}")
  | .workflowInvalid name => .reason 400 (.str ("Invalid workflow name: " ++ name))
  | .schemaNotFound name => .reason 400 (.str ("Schema not found: " ++ name))
  | .notOpen => .reason 404 (.str "No annotations for this document")
  | .breakdown _ => .failure

/-- What is told about the service itself. -/
def Settings.health (s : Settings) (reachable : Bool) : Json :=
  .obj [("llm_backend", .str (providerName s.provider)), ("llm_model", .str s.modelName),
    ("llm_reachable", .bool reachable),
    ("tools", .obj [("yamale", .str s.yamalePath), ("ansible-lint", .str s.ansibleLintPath),
      ("yamllint", .str s.yamllintPath)])]

/-- The JSON of markers. -/
def markersJson (ms : List Marker) : Json :=
  .arr (ms.map Marker.json)

/-- The response that carries an answer. One with JSON that cannot be sent is a failure. -/
def Answer.response : Answer → Response
  | .validated report markers =>
    .ofJson 200 (.obj [("report", report.json), ("markers", markersJson markers)])
  | .shown document annotations markers =>
    .ofJson 200 (.obj [("path", .str document),
      ("annotations", .arr (annotations.map Annotation.json)), ("markers", markersJson markers)])
  | .closed wasOpen => .ofJson 200 (.obj [("closed", .bool wasOpen)])
  | .health settings reachable => .ofJson 200 (settings.health reachable)
  | .rejected r => r.response

/-- The response to a request with a method; one that asks for the head alone gets no content. -/
def Response.toMethod (method : String) (r : Response) : Response :=
  if method = "HEAD" then { r with content := .text "" } else r

end VarsAdvisor

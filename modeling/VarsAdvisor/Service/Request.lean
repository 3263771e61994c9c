import VarsAdvisor.Form.Reading
import VarsAdvisor.Json.Bytes
import VarsAdvisor.Table

/-!
# Requests

What a request asks for, and how the parts of it that carry a form are read. `Unread` says why a
part is not what it has to be.
-/

namespace VarsAdvisor

open VarsAdvisor.Form VarsAdvisor.Text

/-- A request: its method and path, the query by names, and the body. -/
structure Request where
  method : String
  path : String
  query : Table String String
  body : List UInt8
  deriving Repr

/-- The wish to have a document validated. A text stands for the content of the document's file. The
schema is named itself, or found by a workflow and a playbook of it. -/
structure Validation where
  path : String
  text : Option WideText
  schema : Option WideText
  workflow : Option WideText
  playbook : WideText
  deriving DecidableEq, Repr

/-- Why a part of a request is not read: its form has faults, it is no JSON, or it is beyond what
can be read at all. -/
inductive Unread where
  | complaints (part : String) (complaints : List Complaint)
  | syntaxFault (f : Json.Fault) (offset : Nat)
  | unreadable
  deriving Repr

namespace Validation

/-- Reads a wish from a form. -/
def ofForm (form : Json) : Checked Validation :=
  match form with
  | .obj ms =>
    let text (name : String) := optional ms name (readOptional readWide) none
    (((((required ms "path" readNonempty).map Validation.mk).app (text "text")).app
      (text "schema_path")).app (text "workflow")).app (optional ms "playbook" readWide "")
  | _ => complain .notFields form

/-- The part of a request that holds the wish. -/
def bodyPart : String := "body"

/-- A body without a form, be it empty or null. -/
def noForm : Unread :=
  .complaints bodyPart [⟨.missing, [], .null⟩]

/-- Reads a wish from a body. -/
def ofBody (body : List UInt8) : Except Unread Validation :=
  if body = [] then .error noForm
  else match Json.ofBytes body with
    | none => .error .unreadable
    | some (.error (.syntaxFault f place)) => .error (.syntaxFault f place.offset)
    | some (.error _) => .error .unreadable
    | some (.ok .null) => .error noForm
    | some (.ok form) => (ofForm form).toExcept.mapError (.complaints bodyPart)

/-- The name of the schema, unless it is empty. -/
def schemaName? (v : Validation) : Option WideText :=
  v.schema.filter (· ≠ "")

/-- The name of the workflow, unless it is empty. -/
def workflowName? (v : Validation) : Option WideText :=
  v.workflow.filter (· ≠ "")

/-- The name of the playbook, unless it is empty. -/
def playbookName? (v : Validation) : Option WideText :=
  if v.playbook = "" then none else some v.playbook

end Validation

/-- The document that a request names in its query. -/
def Request.document (r : Request) : Except Unread String :=
  let read := match r.query.get? "path" with
    | some name => (readNonempty (.str name)).within (.field "path")
    | none => .bad [⟨.missing, [.field "path"], .null⟩]
  read.toExcept.mapError (.complaints "query")

end VarsAdvisor

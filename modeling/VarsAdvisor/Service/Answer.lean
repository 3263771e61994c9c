import VarsAdvisor.Chat.Model
import VarsAdvisor.Pass.Basic
import VarsAdvisor.Service.Request
import VarsAdvisor.Service.Route
import VarsAdvisor.Workspace.Workflow

/-!
# Answers

What the service answers to a request, before it is put into a form: what it did, or why it rejects
the request.
-/

namespace VarsAdvisor

open VarsAdvisor.Text

/-- Why an action breaks off where nobody expects it. -/
inductive Breakdown where
  | impossiblePath
  | longName
  | noFreshName
  | surrogate
  | workflow (e : WorkflowError)
  | read (e : ReadError)
  | pass (f : Fault)
  | chat (e : ChatFault)

/-- Why a request is rejected. -/
inductive Rejection where
  | stray (s : Stray)
  | unread (u : Unread)
  | documentNotFound (name : String)
  | workflowInvalid (name : WideText)
  | schemaNotFound (name : WideText)
  | notOpen
  | breakdown (b : Breakdown)

/-- What the service answers. -/
inductive Answer where
  | validated (report : PassReport) (markers : List Marker)
  | shown (document : String) (annotations : List Annotation) (markers : List Marker)
  | closed (wasOpen : Bool)
  | health (settings : Settings) (reachable : Bool)
  | rejected (r : Rejection)

end VarsAdvisor

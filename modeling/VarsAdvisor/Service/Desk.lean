import VarsAdvisor.Editor.Open
import VarsAdvisor.Pass.Floor
import VarsAdvisor.Service.Answer
import VarsAdvisor.Service.Outside

/-!
# The desk

On the desk are the files of the workspace and the open documents. A validation that passes all
checks is admitted: its document is opened on a new surface, and a text that is not saved is laid
beside the document for the tools. When the pass is over, that copy is removed again.
-/

namespace VarsAdvisor

open VarsAdvisor.Suggestion VarsAdvisor.Text

/-- Files and open documents. -/
structure Desk where
  tree : Tree
  editor : Editor
  deriving Repr

/-! ## Names in requests -/

/-- The absolute path of what a request names; relative names start at the workspace. -/
def Settings.pathOf (s : Settings) (t : Tree) (name : String) : Except Rejection Path :=
  let p := s.workspace.append (.ofText name)
  if p.isImpossible then .error (.breakdown .impossiblePath)
  else .ok (.resolve ⟨"/", t.base⟩ p)

/-- The path of a file that a request names. -/
def Settings.fileOf (s : Settings) (t : Tree) (missing : Rejection) (name : String) :
    Except Rejection Path := do
  let p ← s.pathOf t name
  if t.asksLongName p then throw (.breakdown .longName)
  else if t.isFile p then pure p
  else throw missing

/-- A workflow is named by words, points and hyphens, without a double point. -/
def isWorkflowName (name : String) : Bool :=
  name != "" && name.toList.all (fun c => isWord c || c == '.' || c == '-') &&
    !Text.contains name ".."

/-- The name of a workflow in a request, if it is one. -/
def workflowNamed? (name : WideText) : Option String :=
  name.string?.filter isWorkflowName

/-! ## Checks -/

/-- A validation that may go on: its document and schema, what the chat model is told, and the lines
to show. -/
structure Cleared where
  document : Path
  schema : Option Path
  context : Context
  lines : List String
  deriving DecidableEq, Repr

namespace Validation

/-- The workflow, if one is named. Its name has to be one. -/
def checkWorkflow (v : Validation) : Except Rejection (Option String) :=
  match v.workflowName? with
  | some name => match workflowNamed? name with
    | some workflow => .ok (some workflow)
    | none => .error (.workflowInvalid name)
  | none => .ok none

/-- The schema: the one that is named, else that of the workflow. No file has surrogates in its
name. -/
def findSchema (v : Validation) (s : Settings) (t : Tree) (workflow : Option String) :
    Except Rejection (Option Path) :=
  match v.schemaName?, workflow with
  | some name, _ => match name.string? with
    | some text => (s.fileOf t (.schemaNotFound name) text).map some
    | none => .error (.breakdown .surrogate)
  | none, some workflow =>
    (t.findSchema s.workspace workflow v.playbook.shape).mapError
      (.breakdown <| .workflow <| .pattern ·)
  | none, none => .ok none

/-- A sample of the workflow, unless there is none or it is empty. -/
def sample (v : Validation) (s : Settings) (t : Tree) (workflow : Option String) :
    Except Rejection (Option String) :=
  match workflow with
  | some workflow =>
    ((t.exampleVars s.workspace workflow v.playbook.shape).mapError
      (.breakdown <| .workflow ·)).map fun text => if text = "" then none else some text
  | none => .ok none

/-- The text of the schema. -/
def schemaText (t : Tree) (schema : Option Path) : Except Rejection (Option String) :=
  match schema with
  | some p => (t.readSchema p).mapError (.breakdown <| .read ·)
  | none => .ok none

/-- What the chat model is told beside the errors. -/
def context (v : Validation) (schemaText sample : Option String) : Context :=
  ⟨v.workflow, v.playbookName?, schemaText.map WideText.ofString, sample.map WideText.ofString⟩

/-- The text to validate, that of the document's file if none is given. -/
def textOf (v : Validation) (t : Tree) (document : Path) : Except Rejection String :=
  match v.text with
  | some text => .ok text.shape
  | none => (t.readText document).mapError (.breakdown <| .read ·)

/-- Checks a validation against the files. Nothing is changed by this. -/
def check (v : Validation) (s : Settings) (t : Tree) : Except Rejection Cleared := do
  let document ← s.fileOf t (.documentNotFound v.path) v.path
  let workflow ← v.checkWorkflow
  let schema ← v.findSchema s t workflow
  let sample ← v.sample s t workflow
  let schemaText ← schemaText t schema
  let text ← v.textOf t document
  pure ⟨document, schema, v.context schemaText sample, Text.lines text⟩

end Validation

/-! ## Copies of texts that are not saved -/

/-- The name of a copy of a document: hidden, with a mark before the ending. -/
def copyName (document : Path) (mark : Mark) : String :=
  s!".{document.stem}.{mark.text}{document.suffix}"

/-- A copy beside a document. -/
def copyPath (document : Path) (mark : Mark) : Path :=
  document.parent.child (copyName document mark)

/-- The first of the copies with these marks at which there is nothing. -/
def Tree.freshCopy? (t : Tree) (document : Path) (marks : List Mark) : Option Path :=
  (marks.map (copyPath document)).find? fun copy => !t.hasPath copy

namespace Desk

/-- Lays a text beside a document, if there is one; where it lies then. A text with surrogates
cannot be laid. -/
def layCopy (d : Desk) (document : Path) (marks : List Mark) (text : Option WideText) :
    Except Rejection (Option Path) × Desk :=
  match text with
  | none => (.ok none, d)
  | some text =>
    match d.tree.freshCopy? document marks, text.string? with
    | none, _ => (.error (.breakdown .noFreshName), d)
    | some copy, content =>
      if d.tree.asksLongName copy then (.error (.breakdown .longName), d)
      else match content with
        | none => (.error (.breakdown .surrogate), d)
        | some content =>
          (.ok (some copy), { d with tree := d.tree.add copy.parts (.file (Utf8.bytesOf content)) })

/-- Removes a copy, if there is one. -/
def removeCopy (d : Desk) (copy : Option Path) : Desk :=
  match copy with
  | none => d
  | some p => { d with tree := d.tree.remove p.parts }

/-- Opens a document on a new surface. -/
def openOn (d : Desk) (document : Path) (lines : List String) : Desk × OverlayId :=
  let (e, surface) := d.editor.addSurface (.ofLines lines)
  let (e, overlay) := e.openDocument document.text surface
  ({ d with editor := e }, overlay)

/-! ## Admission -/

/-- The pass over a checked document. -/
def jobOn (d : Desk) (c : Cleared) (overlay : OverlayId) (copy : Option Path) : Job :=
  ⟨⟨"/", d.tree.base⟩, ⟨c.document, c.schema, c.context, copy⟩, overlay⟩

/-- Admits a validation, unless a check fails; the pass that is to be run then. A text that is not
saved gets the first free one of the marks. -/
def receive (s : Settings) (marks : List Mark) (v : Validation) (d : Desk) :
    Except Rejection Job × Desk :=
  match v.check s d.tree with
  | .error r => (.error r, d)
  | .ok c =>
    let (d, overlay) := d.openOn c.document c.lines
    match d.layCopy c.document marks v.text with
    | (.error r, d) => (.error r, d)
    | (.ok copy, d) => (.ok (d.jobOn c overlay copy), d)

/-- Removes what was laid on the desk for a pass. -/
def dismiss (d : Desk) (job : Job) : Desk :=
  d.removeCopy job.assignment.source

/-! ## Answers from the desk -/

/-- The markers of an open document. -/
def markersOf (d : Desk) (document : String) : List Marker :=
  match d.editor.overlayOf? document with
  | some overlay => (d.editor.surfaceOf overlay).shown
  | none => []

/-- The answer to a validation whose pass is over. A validation that was cancelled gets none. -/
def answerTo (d : Desk) (job : Job) : Ending PassReport → Option Answer
  | .done report => some (.validated report (d.markersOf job.assignment.document.text))
  | .failed f => some (.rejected (.breakdown (.pass f)))
  | .cancelled => none

/-- Shows the annotations of an open document. -/
def showAnnotations (s : Settings) (name : String) (d : Desk) : Answer :=
  match s.pathOf d.tree name with
  | .error r => .rejected r
  | .ok p => match d.editor.overlayOf? p.text with
    | some overlay =>
      .shown p.text (d.editor.overlay overlay).sorted (d.editor.surfaceOf overlay).shown
    | none => .rejected .notOpen

/-- Closes a document. -/
def closeDocument (s : Settings) (name : String) (d : Desk) : Answer × Desk :=
  match s.pathOf d.tree name with
  | .error r => (.rejected r, d)
  | .ok p =>
    let (e, wasOpen) := d.editor.closeDocument p.text
    (.closed wasOpen, { d with editor := e })

end Desk

end VarsAdvisor

import VarsAdvisor.Workspace.Select

/-!
# Workflows

A workflow is a directory below some `workflows` directory of a workspace, with schemas and samples
of vars files. A playbook that deletes has schemas and samples of its own, told by their names.
-/

namespace VarsAdvisor

open VarsAdvisor.Text

/-- The word that marks what belongs to deleting playbooks. -/
def deleteMarker : String := "delete"

/-- The word that marks what belongs to playbooks with templates. -/
def jinjaMarker : String := "jinja"

/-- The playbook deletes. -/
def deletes (playbook : String) : Bool :=
  Text.contains playbook deleteMarker

/-- The file belongs to deleting playbooks. -/
def isForDeletion (p : Path) : Bool :=
  Text.contains p.name deleteMarker

/-- Files in the directory of a kind whose names end as given. -/
def filesOf (directory : Path) (kind : String) (ending : String) (t : Tree) : List Path :=
  t.select (directory.child kind) ⟨[.wildcard (.star :: ending.toList.map .literal)], false⟩

namespace Tree

/-- The directories of a workflow, in order. The name is read as a pattern. -/
def workflowDirectories (t : Tree) (root : Path) (workflow : String) :
    Except PatternError (List Path) := do
  let pattern ← Pattern.ofText s!"**/workflows/{workflow}"
  match t.longIn? root pattern with
  | some p => throw (.nameTooLong p)
  | none => pure ((t.select root pattern).filter t.isDirectory)

/-- All schemas of a workflow, in order. -/
def schemas (t : Tree) (root : Path) (workflow : String) : Except PatternError (List Path) :=
  (t.workflowDirectories root workflow).map fun ds =>
    ds.flatMap fun d => filesOf d "schema" "_schema.yml" t

/-- Of several schemas a deleting playbook takes those for deletion; otherwise these are left
out. -/
def eligible (playbook : String) (candidates : List Path) : List Path :=
  if 1 < candidates.length ∧ deletes playbook then candidates.filter isForDeletion
  else candidates.filter fun p => !isForDeletion p

/-- The schema of a workflow for a playbook. -/
def findSchema (t : Tree) (root : Path) (workflow playbook : String) :
    Except PatternError (Option Path) :=
  (t.schemas root workflow).map fun candidates => (eligible playbook candidates).head?

/-- All samples of a workflow, in order. -/
def samples (t : Tree) (root : Path) (workflow : String) : Except PatternError (List Path) :=
  (t.workflowDirectories root workflow).map fun ds =>
    ds.flatMap fun d => filesOf d "vars" ".yml" t

/-- A sample is one for a playbook. -/
def suits (playbook : String) (sample : Path) : Bool :=
  if deletes playbook then isForDeletion sample
  else if isForDeletion sample then false
  else Text.contains playbook jinjaMarker || !Text.contains sample.name jinjaMarker

/-- The texts of the files that can be read. A file that is there but holds no text is an error. -/
def readAll (t : Tree) : List Path → Except ReadError (List String)
  | [] => .ok []
  | p :: rest => match t.readText p with
    | .ok text => (t.readAll rest).map (text :: ·)
    | .error .unreadable => t.readAll rest
    | .error e => .error e

/-- The text of the first file that can be read. -/
def readFirst (t : Tree) : List Path → Except ReadError (Option String)
  | [] => .ok none
  | p :: rest => match t.readText p with
    | .ok text => .ok (some text)
    | .error .unreadable => t.readFirst rest
    | .error e => .error e

/-- Texts under numbers, as one text. -/
def numberedExamples (texts : List String) : String :=
  joined "\n" ((texts.zipIdx 1).map fun (text, number) => s!"Example {number}: {text}")

end Tree

/-- Why a workflow gives no schema or sample. -/
inductive WorkflowError where
  | pattern (e : PatternError)
  | read (e : ReadError)
  deriving DecidableEq, Repr

namespace Tree

/-- The first sample of a workflow for a playbook; empty if there is none. -/
def exampleVars (t : Tree) (root : Path) (workflow playbook : String) :
    Except WorkflowError String := do
  let files ← (t.samples root workflow).mapError .pattern
  let text ← (t.readFirst (files.filter (suits playbook))).mapError .read
  pure (text.getD "")

/-- All samples of a workflow under numbers. -/
def allExampleVars (t : Tree) (root : Path) (workflow : String) : Except WorkflowError String := do
  let files ← (t.samples root workflow).mapError .pattern
  let texts ← (t.readAll files).mapError .read
  pure (numberedExamples texts)

/-- The text of a schema, if it can be read. -/
def readSchema (t : Tree) (p : Path) : Except ReadError (Option String) :=
  t.readFirst [p]

end Tree

end VarsAdvisor

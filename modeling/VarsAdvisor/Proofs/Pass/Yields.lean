import VarsAdvisor.Pass.Run
import VarsAdvisor.Proofs.Pass.Script

/-!
# What work can come to

`Script.Yields p` says that all values which a script can come to, whatever it is told, have the
property `p`. So has the value that a run of the script ends with (`Yields.run`), and what is left
of the script after a step or a cancellation yields nothing else (`Yields.step`,
`Yields.interrupt`). All evidence about a document has the document's syntax finding
(`Crew.yields_gather`).
-/

namespace VarsAdvisor

open Suggestion

/-- Every value that the work can come to has the property. -/
inductive Script.Yields {α : Type} (p : α → Prop) : Script α → Prop
  | done {a : α} (h : p a) : Yields p (.done a)
  | fault (f : Fault) : Yields p (.fault f)
  | cancelled : Yields p .cancelled
  | tool (argv : List String) {next : Except ToolFailure ToolRun → Script α}
      (hnext : ∀ reply, Yields p (next reply)) : Yields p (.tool argv next)
  | model (prompt : Prompt) {next : Except Break Completion → Script α}
      (hnext : ∀ reply, Yields p (next reply)) : Yields p (.model prompt next)

/-- The value of work that has ended has the property, or every value that the rest can come to. -/
inductive Progress.Yields {α : Type} (p : α → Prop) : Progress α → Prop
  | more {rest : Script α} (h : rest.Yields p) : Yields p (.more rest)
  | stuck {request : Script α} (h : request.Yields p) : Yields p (.stuck request)
  | done {a : α} (h : p a) : Yields p (.ended (.done a))
  | failed (f : Fault) : Yields p (.ended (.failed f))
  | cancelled : Yields p (.ended .cancelled)

namespace Script.Yields

variable {α β ε σ : Type} {p : α → Prop} {q : β → Prop}

theorem ofExcept {fault : ε → Fault} {x : Except ε α} (h : ∀ a, x = .ok a → p a) :
    (Script.ofExcept fault x).Yields p := by
  cases x with
  | ok a => exact .done (h a rfl)
  | error e => exact .fault _

theorem bind {script : Script α} {f : α → Script β} (h : script.Yields p)
    (hf : ∀ a, p a → (f a).Yields q) : (script.bind f).Yields q := by
  induction h with
  | done h => exact hf _ h
  | fault f => exact .fault f
  | cancelled => exact .cancelled
  | tool argv _ ih => exact .tool argv ih
  | model prompt _ ih => exact .model prompt ih

/-- Nothing is said about the values. -/
theorem any (script : Script α) : script.Yields fun _ => True := by
  induction script with
  | done a => exact .done trivial
  | fault f => exact .fault f
  | cancelled => exact .cancelled
  | tool argv _ ih => exact .tool argv ih
  | model prompt _ ih => exact .model prompt ih

theorem mono {p' : α → Prop} {script : Script α} (h : script.Yields p) (hp : ∀ a, p a → p' a) :
    script.Yields p' := by
  induction h with
  | done h => exact .done (hp _ h)
  | fault f => exact .fault f
  | cancelled => exact .cancelled
  | tool argv _ ih => exact .tool argv ih
  | model prompt _ ih => exact .model prompt ih

theorem run {script : Script α} (h : script.Yields p) {c : Collaborators σ} {s s' : σ} {a : α}
    (hrun : script.run c s = (.done a, s')) : p a := by
  induction h generalizing s with
  | done h =>
    cases hrun
    exact h
  | fault f => cases hrun
  | cancelled => cases hrun
  | tool argv _ ih =>
    unfold Script.run at hrun
    split at hrun
    · exact ih _ hrun
    · next b _ _ => cases b <;> cases hrun
    · cases hrun
  | model prompt _ ih =>
    unfold Script.run at hrun
    split at hrun <;> exact ih _ hrun

theorem progress_ofBreak (p : α → Prop) (b : Break) :
    (Progress.ended (.ofBreak b)).Yields p := by
  cases b with
  | error kind message => exact .failed _
  | stop kind message => exact .failed _
  | cancellation => exact .cancelled

theorem step {script : Script α} (h : script.Yields p) (c : Collaborators σ) (s : σ) :
    (script.step c s).1.Yields p := by
  cases h with
  | done h => exact .done h
  | fault f => exact .failed f
  | cancelled => exact .cancelled
  | tool argv hnext =>
    unfold Script.step
    dsimp only
    split
    · exact .more (hnext _)
    · exact progress_ofBreak p _
    · exact .stuck (.tool argv hnext)
  | model prompt hnext =>
    unfold Script.step
    dsimp only
    split
    · exact .more (hnext _)
    · exact .more (hnext _)
    · exact .stuck (.model prompt hnext)

theorem standing {script : Script α} (h : script.Yields p) : script.standing.Yields p := by
  cases h with
  | done h => exact .done h
  | fault f => exact .failed f
  | cancelled => exact .cancelled
  | tool argv hnext => exact .more (.tool argv hnext)
  | model prompt hnext => exact .more (.model prompt hnext)

/-- Only a request to the model is told of the cancellation, so that there can be a value. -/
theorem interrupt {script : Script α} (h : script.Yields p) : script.interrupt.Yields p := by
  cases h with
  | model prompt hnext => exact (hnext _).standing
  | _ => exact .cancelled

end Script.Yields

/-- All evidence about a document has the document's syntax finding. -/
theorem Crew.yields_gather (crew : Crew) (a : Assignment) (d : Document) :
    (crew.gather a d).Yields fun evidence =>
      Yaml.check d.joinedText = .ok evidence.syntaxFinding := by
  have hsyntax : (Script.ofExcept Fault.yaml (Yaml.check d.joinedText)).Yields fun found =>
      Yaml.check d.joinedText = .ok found := .ofExcept fun found hfound => hfound
  unfold gather
  refine hsyntax.bind fun found hfound => ?_
  refine (Script.Yields.any (crew.validate a)).bind fun outcome _ => ?_
  refine (Script.Yields.any (crew.explain a d outcome)).bind ?_
  rintro ⟨schema, source⟩ -
  exact (Script.Yields.any (crew.lint a)).bind fun reports _ => .done hfound

end VarsAdvisor

import VarsAdvisor.Proofs.Pass.Work

/-!
# Passes over the same text in two files

Two scripts are in lockstep (`Script.Lockstep`) if they ask the same of the chat model, and of tools
the same but for the file to check, and go on in lockstep when they are told the same. So if the
tools say the same about the two files, both scripts end the same way (`Lockstep.run`). The scripts
of two passes over the same lines, one of the document's file and one of a copy of it, are in
lockstep (`Crew.lockstep_gather`).
-/

namespace VarsAdvisor

open Suggestion

/-! ## What tools say -/

/-- What became of two runs is the same, but for the commands that were run. -/
inductive SameOutcome : Except ToolFailure ToolRun → Except ToolFailure ToolRun → Prop
  | ran (run : ToolRun) (argv : List String) : SameOutcome (.ok run) (.ok { run with argv := argv })
  | failed (f : ToolFailure) : SameOutcome (.error f) (.error f)

/-- Tools react in the same way, but for the commands that were run. -/
inductive SameReaction : Reaction (Except ToolFailure ToolRun) →
    Reaction (Except ToolFailure ToolRun) → Prop
  | answer {reply reply' : Except ToolFailure ToolRun} (h : SameOutcome reply reply') :
      SameReaction (.answer reply) (.answer reply')
  | crash (b : Break) : SameReaction (.crash b) (.crash b)
  | silence : SameReaction .silence .silence

theorem SameOutcome.ofReply {reply reply' : Except ToolFailure ToolRun}
    (h : SameOutcome reply reply') : Outcome.ofReply reply = Outcome.ofReply reply' := by
  cases h <;> rfl

theorem SameOutcome.report {reply reply' : Except ToolFailure ToolRun}
    (h : SameOutcome reply reply') (l : Linter) : l.report reply = l.report reply' := by
  cases h <;> rfl

theorem SameReaction.refl (reaction : Reaction (Except ToolFailure ToolRun)) :
    SameReaction reaction reaction := by
  cases reaction with
  | answer reply =>
    cases reply with
    | ok run => exact .answer (.ran run run.argv)
    | error failure => exact .answer (.failed failure)
  | crash b => exact .crash b
  | silence => exact .silence

/-! ## Scripts -/

namespace Script

variable {α β ε : Type} {file file' : Path}

/-- Two scripts ask the same, one about `file` and the other about `file'`, and go on in the same
way when they are told the same. -/
inductive Lockstep (file file' : Path) : Script α → Script α → Prop
  | done (a : α) : Lockstep file file' (.done a) (.done a)
  | fault (f : Fault) : Lockstep file file' (.fault f) (.fault f)
  | cancelled : Lockstep file file' .cancelled .cancelled
  | tool (command : List String) {next next' : Except ToolFailure ToolRun → Script α}
      (hnext : ∀ reply reply', SameOutcome reply reply' →
        Lockstep file file' (next reply) (next' reply')) :
      Lockstep file file' (.tool (command ++ [file.text]) next)
        (.tool (command ++ [file'.text]) next')
  | model (prompt : Prompt) {next next' : Except Break Completion → Script α}
      (hnext : ∀ reply, Lockstep file file' (next reply) (next' reply)) :
      Lockstep file file' (.model prompt next) (.model prompt next')

namespace Lockstep

theorem bind {script script' : Script α} {f f' : α → Script β}
    (h : Lockstep file file' script script') (hf : ∀ a, Lockstep file file' (f a) (f' a)) :
    Lockstep file file' (script.bind f) (script'.bind f') := by
  induction h with
  | done a => exact hf a
  | fault e => exact .fault e
  | cancelled => exact .cancelled
  | tool command _ ih => exact .tool command ih
  | model prompt _ ih => exact .model prompt ih

theorem ofExcept (fault : ε → Fault) (x : Except ε α) :
    Lockstep file file' (Script.ofExcept fault x) (Script.ofExcept fault x) := by
  cases x with
  | ok a => exact .done a
  | error e => exact .fault _

theorem ofBreak (b : Break) :
    Lockstep file file' (Script.ofBreak b : Script α) (Script.ofBreak b) := by
  cases b with
  | error kind message => exact .fault _
  | stop kind message => exact .fault _
  | cancellation => exact .cancelled

/-- If tools and model answer alike and keep their states alike, scripts in lockstep end in the same
way. -/
theorem run {σ τ : Type} {c : Collaborators σ} {c' : Collaborators τ} {Alike : σ → τ → Prop}
    (htool : ∀ command s s', Alike s s' →
      SameReaction (c.tool (command ++ [file.text]) s).1
          (c'.tool (command ++ [file'.text]) s').1 ∧
        Alike (c.tool (command ++ [file.text]) s).2 (c'.tool (command ++ [file'.text]) s').2)
    (hmodel : ∀ prompt s s', Alike s s' → (c.model prompt s).1 = (c'.model prompt s').1 ∧
      Alike (c.model prompt s).2 (c'.model prompt s').2)
    {script script' : Script α} (h : Lockstep file file' script script') {s : σ} {s' : τ}
    (hs : Alike s s') :
    (script.run c s).1 = (script'.run c' s').1 ∧
      Alike (script.run c s).2 (script'.run c' s').2 := by
  induction h generalizing s s' with
  | done a => exact ⟨rfl, hs⟩
  | fault f => exact ⟨rfl, hs⟩
  | cancelled => exact ⟨rfl, hs⟩
  | @tool command next next' _ ih =>
    obtain ⟨hreaction, halike⟩ := htool command s s' hs
    unfold Script.run
    generalize c.tool (command ++ [file.text]) s = result at hreaction halike ⊢
    generalize c'.tool (command ++ [file'.text]) s' = result' at hreaction halike ⊢
    obtain ⟨reaction, s⟩ := result
    obtain ⟨reaction', s'⟩ := result'
    cases hreaction with
    | answer hreply => exact ih _ _ hreply halike
    | crash b => exact ⟨rfl, halike⟩
    | silence => exact ⟨rfl, halike⟩
  | @model prompt next next' _ ih =>
    obtain ⟨hreaction, halike⟩ := hmodel prompt s s' hs
    unfold Script.run
    generalize c.model prompt s = result at hreaction halike ⊢
    generalize c'.model prompt s' = result' at hreaction halike ⊢
    obtain ⟨reaction, s⟩ := result
    obtain ⟨reaction', s'⟩ := result'
    obtain rfl : reaction = reaction' := hreaction
    cases reaction with
    | answer completion => exact ih _ halike
    | crash b => exact ih _ halike
    | silence => exact ih _ halike

end Lockstep

end Script

/-! ## The work of a pass -/

open Script

variable {σ τ : Type}

theorem lockstep_askAdvice {file file' : Path} (hasModel : Bool) (policy : Policy)
    (errors : List String) (d : Document) (context : Context) :
    Lockstep file file' (askAdvice hasModel policy errors d context)
      (askAdvice hasModel policy errors d context) := by
  unfold askAdvice
  split
  · exact .done _
  · split
    · refine .model _ fun reply => ?_
      unfold adviceOn
      split
      · exact .done _
      · exact .done _
      · exact .ofBreak _
    · exact .done _

namespace Crew

variable (crew : Crew) (a : Assignment) (source : Option Path)

theorem lockstep_validate :
    Lockstep a.checked { a with source := source }.checked (crew.validate a)
      (crew.validate { a with source := source }) := by
  unfold validate
  cases a.schema with
  | none => exact .done _
  | some schema =>
    refine .tool [crew.validator, "-s", schema.text, "-v"] fun reply reply' h => ?_
    rw [h.ofReply]
    exact .done _

theorem lockstep_explain {file file' : Path} (d : Document) (outcome : Outcome) :
    Lockstep file file' (crew.explain a d outcome)
      (crew.explain { a with source := source } d outcome) := by
  unfold explain
  split
  · exact .done _
  · refine (lockstep_askAdvice _ _ _ _ _).bind fun advice => ?_
    exact (Lockstep.ofExcept _ _).bind fun lines => .done _

theorem lockstep_lintWith (l : Linter) :
    Lockstep a.checked { a with source := source }.checked (crew.lintWith a l)
      (crew.lintWith { a with source := source } l) := by
  refine .tool [l.executable] fun reply reply' h => ?_
  rw [h.report]
  exact .ofExcept _ _

theorem lockstep_lintAll (linters : List Linter) :
    Lockstep a.checked { a with source := source }.checked (crew.lintAll a linters)
      (crew.lintAll { a with source := source } linters) := by
  induction linters with
  | nil => exact .done _
  | cons l rest ih =>
    refine (crew.lockstep_lintWith a source l).bind fun report => ?_
    exact ih.bind fun reports => .done _

theorem lockstep_lint :
    Lockstep a.checked { a with source := source }.checked (crew.lint a)
      (crew.lint { a with source := source }) := by
  unfold lint
  dsimp only
  split
  · exact crew.lockstep_lintAll a source _
  · exact .done _

/-- The work on a document does not depend on the file in which the tools find its text, but for
what they say. -/
theorem lockstep_gather (d : Document) :
    Lockstep a.checked { a with source := source }.checked (crew.gather a d)
      (crew.gather { a with source := source } d) := by
  unfold gather
  refine (Lockstep.ofExcept _ _).bind fun syntaxFinding => ?_
  refine (crew.lockstep_validate a source).bind fun outcome => ?_
  refine (crew.lockstep_explain a source d outcome).bind fun found => ?_
  exact (crew.lockstep_lint a source).bind fun lint => .done _

end Crew

/-- Passes over a document end in the same way and annotate the same, wherever the tools find its
text, if tools and model answer alike. -/
theorem runPass_alike {c : Collaborators σ} {c' : Collaborators τ} {Alike : σ → τ → Prop}
    (crew : Crew) (a : Assignment) (source : Option Path)
    (htool : ∀ command s s', Alike s s' →
      SameReaction (c.tool (command ++ [a.checked.text]) s).1
          (c'.tool (command ++ [{ a with source := source }.checked.text]) s').1 ∧
        Alike (c.tool (command ++ [a.checked.text]) s).2
          (c'.tool (command ++ [{ a with source := source }.checked.text]) s').2)
    (hmodel : ∀ prompt s s', Alike s s' → (c.model prompt s).1 = (c'.model prompt s').1 ∧
      Alike (c.model prompt s).2 (c'.model prompt s').2)
    (id : OverlayId) (e : Editor) {s : σ} {s' : τ} (hs : Alike s s') :
    let ran := runPass c crew a id e s
    let ran' := runPass c' crew { a with source := source } id e s'
    ran.1 = ran'.1 ∧ ran.2.1 = ran'.2.1 ∧ Alike ran.2.2 ran'.2.2 := by
  intro ran ran'
  obtain ⟨⟨ending, t⟩, hrun⟩ : ∃ result,
    (crew.work a (e.beginPass id) id).run c s = result := ⟨_, rfl⟩
  obtain ⟨⟨ending', t'⟩, hrun'⟩ : ∃ result,
    (crew.work { a with source := source } (e.beginPass id) id).run c' s' = result := ⟨_, rfl⟩
  have hsame := (crew.lockstep_gather a source
    ((e.beginPass id).surfaceOf id).document).run htool hmodel hs
  unfold Crew.work at hrun hrun'
  rw [hrun, hrun'] at hsame
  obtain ⟨rfl, halike⟩ := hsame
  have hran : ran = _ := runPass_of_run hrun
  have hran' : ran' = _ := runPass_of_run hrun'
  rw [hran, hran']
  refine ⟨?_, ?_, halike⟩
  · cases ending <;> rfl
  · cases ending <;> rfl

/-- Passes with collaborators that answer the same are the same. -/
theorem runPass_congr {c : Collaborators σ} {c' : Collaborators τ} {Alike : σ → τ → Prop}
    (htool : ∀ argv s s', Alike s s' → (c.tool argv s).1 = (c'.tool argv s').1 ∧
      Alike (c.tool argv s).2 (c'.tool argv s').2)
    (hmodel : ∀ prompt s s', Alike s s' → (c.model prompt s).1 = (c'.model prompt s').1 ∧
      Alike (c.model prompt s).2 (c'.model prompt s').2)
    (crew : Crew) (a : Assignment) (id : OverlayId) (e : Editor) {s : σ} {s' : τ}
    (hs : Alike s s') :
    (runPass c crew a id e s).1 = (runPass c' crew a id e s').1 ∧
      (runPass c crew a id e s).2.1 = (runPass c' crew a id e s').2.1 := by
  obtain ⟨source, hsource⟩ : ∃ source, { a with source := source } = a := ⟨a.source, rfl⟩
  have hsame := runPass_alike crew a source (fun command s s' hs => ?_) hmodel id e hs
  · rw [hsource] at hsame
    exact ⟨hsame.1, hsame.2.1⟩
  · rw [hsource]
    obtain ⟨hreaction, halike⟩ := htool (command ++ [a.checked.text]) s s' hs
    exact ⟨hreaction ▸ .refl _, halike⟩

end VarsAdvisor

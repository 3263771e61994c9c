import VarsAdvisor.Proofs.Pass.Work

/-!
# Steps of work

A step leaves work where it was, or leads it to where the answer to its request takes it
(`Script.leadsTo_step`). With collaborators that answer or break off, steps make up a run
(`Script.run_eq_of_step`), and there are only so many (`Script.Obeys.step`). Work that keeps to the
rules is over as soon as it is cancelled (`Script.interrupt_of_obeys`).
-/

namespace VarsAdvisor

open Suggestion

variable {σ α : Type}

/-- Every request is answered or breaks off. -/
structure Collaborators.Responsive (c : Collaborators σ) : Prop where
  tool : ∀ argv s, (c.tool argv s).1 ≠ .silence
  model : ∀ prompt s, (c.model prompt s).1 ≠ .silence

namespace Script

/-- The work stays where it is, or goes on with the answer to its request. -/
inductive Leads : Script α → Script α → Prop
  | stay (script : Script α) : Leads script script
  | tool (argv : List String) (next : Except ToolFailure ToolRun → Script α)
      (reply : Except ToolFailure ToolRun) : Leads (.tool argv next) (next reply)
  | model (prompt : Prompt) (next : Except Break Completion → Script α)
      (reply : Except Break Completion) : Leads (.model prompt next) (next reply)

/-- The work that is left, if it has not ended, is what this script leads to. -/
def LeadsTo (script : Script α) : Progress α → Prop
  | .more later | .stuck later => script.Leads later
  | .ended _ => True

theorem Leads.obeys {script later : Script α} (h : script.Leads later)
    (hy : ∃ plan asks, script.Obeys plan asks) : ∃ plan asks, later.Obeys plan asks := by
  cases h with
  | stay => exact hy
  | tool argv next reply =>
    obtain ⟨plan, asks, hy⟩ := hy
    cases hy with
    | tool hnext => exact ⟨_, _, hnext reply⟩
  | model prompt next reply =>
    obtain ⟨plan, asks, hy⟩ := hy
    cases hy with
    | model hbreak hnext => exact ⟨_, _, hnext reply⟩

theorem leadsTo_step (c : Collaborators σ) (script : Script α) (s : σ) :
    script.LeadsTo (script.step c s).1 := by
  cases script with
  | done a => trivial
  | fault f => trivial
  | cancelled => trivial
  | tool argv next =>
    unfold step
    dsimp only
    split
    · exact .tool argv next _
    · trivial
    · exact .stay _
  | model prompt next =>
    unfold step
    dsimp only
    split
    · exact .model prompt next _
    · exact .model prompt next _
    · exact .stay _

theorem leadsTo_interrupt (script : Script α) : script.LeadsTo script.interrupt := by
  cases script with
  | model prompt next =>
    have hleads := Leads.model prompt next (.error .cancellation)
    unfold interrupt standing
    dsimp only
    split
    · trivial
    · trivial
    · trivial
    · exact hleads
  | _ => trivial

/-- Work that keeps to the rules is over when it is cancelled. -/
theorem interrupt_of_obeys {plan : List (List String)} {asks : Nat} {script : Script α}
    (h : script.Obeys plan asks) : script.interrupt = .ended .cancelled := by
  cases h with
  | model hbreak hnext =>
    unfold interrupt
    dsimp only
    rw [hbreak .cancellation rfl]
    rfl
  | _ => rfl

theorem step_ofBreak (c : Collaborators σ) (b : Break) (s : σ) :
    (ofBreak b : Script α).step c s = (.ended (.ofBreak b), s) := by
  cases b <;> rfl

/-- With responsive collaborators, a step is the beginning of a run. -/
theorem run_eq_of_step {c : Collaborators σ} (hc : c.Responsive) (script : Script α) (s : σ) :
    match script.step c s with
    | (.more rest, s') => script.run c s = rest.run c s'
    | (.ended ending, s') => script.run c s = (ending, s')
    | (.stuck _, _) => False := by
  cases script with
  | done a => rfl
  | fault f => rfl
  | cancelled => rfl
  | tool argv next =>
    cases hasked : c.tool argv s with
    | mk reaction s' =>
      cases reaction with
      | answer reply => simp only [step, run, hasked]
      | crash b => simp only [step, run, hasked]
      | silence => exact absurd (congrArg Prod.fst hasked) (hc.tool argv s)
  | model prompt next =>
    cases hasked : c.model prompt s with
    | mk reaction s' =>
      cases reaction with
      | answer completion => simp only [step, run, hasked]
      | crash b => simp only [step, run, hasked]
      | silence => exact absurd (congrArg Prod.fst hasked) (hc.model prompt s)

/-- A step after which there is work left has used up one of the requests. -/
theorem Obeys.step {plan : List (List String)} {asks : Nat} {script : Script α}
    (h : script.Obeys plan asks) {c : Collaborators σ} {s s' : σ} {rest : Script α}
    (hstep : script.step c s = (.more rest, s')) :
    ∃ plan' asks', rest.Obeys plan' asks' ∧ plan'.length + asks' < plan.length + asks := by
  cases h with
  | done asks a => cases hstep
  | fault plan asks f => cases hstep
  | cancelled plan asks => cases hstep
  | @tool argv plan asks next hnext =>
    unfold Script.step at hstep
    dsimp only at hstep
    split at hstep
    · cases hstep
      exact ⟨plan, asks, hnext _, by rw [List.length_cons]; omega⟩
    · cases hstep
    · cases hstep
  | @model plan asks prompt next hbreak hnext =>
    unfold Script.step at hstep
    dsimp only at hstep
    split at hstep
    · cases hstep
      exact ⟨plan, asks, hnext _, Nat.lt_succ_self _⟩
    · cases hstep
      exact ⟨plan, asks, hnext _, Nat.lt_succ_self _⟩
    · cases hstep

end Script

end VarsAdvisor

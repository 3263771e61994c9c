import VarsAdvisor.Proofs.Pass.Script
import VarsAdvisor.Proofs.Pass.Step

/-!
# What a pass asks for

Collaborators may take down what they are asked (`Collaborators.logged`). The runs of tools taken
down in work that keeps to the rules are a first part of its plan, and all of it if the work is done
(`Script.Obeys.log`).
-/

namespace VarsAdvisor

open Suggestion

variable {σ α : Type}

/-- A request that collaborators got. -/
inductive Asked where
  | tool (argv : List String)
  | model (prompt : Prompt)
  deriving DecidableEq, Repr

/-- The runs of tools among requests. -/
def toolsAsked (log : List Asked) : List (List String) :=
  log.filterMap fun
    | .tool argv => some argv
    | .model _ => none

/-- The same collaborators, who also take down what they are asked. -/
def Collaborators.logged (c : Collaborators σ) : Collaborators (σ × List Asked) where
  tool argv s := ((c.tool argv s.1).1, (c.tool argv s.1).2, s.2 ++ [.tool argv])
  model prompt s := ((c.model prompt s.1).1, (c.model prompt s.1).2, s.2 ++ [.model prompt])

theorem Collaborators.Responsive.logged {c : Collaborators σ} (h : c.Responsive) :
    c.logged.Responsive :=
  ⟨fun argv s => h.tool argv s.1, fun prompt s => h.model prompt s.1⟩

namespace Script

/-- What is taken down in a run of work that keeps to the rules. -/
theorem Obeys.log {plan : List (List String)} {asks : Nat} {script : Script α}
    (h : script.Obeys plan asks) (c : Collaborators σ) (s : σ) (log : List Asked) :
    ∃ asked, (script.run c.logged (s, log)).2.2 = log ++ asked ∧ toolsAsked asked <+: plan ∧
      ((script.run c.logged (s, log)).1.isDone = true → toolsAsked asked = plan) := by
  induction h generalizing s log with
  | done asks a => exact ⟨[], (List.append_nil log).symm, List.nil_prefix, fun _ => rfl⟩
  | fault plan asks f =>
    refine ⟨[], (List.append_nil log).symm, List.nil_prefix, ?_⟩
    intro hdone
    cases hdone
  | cancelled plan asks =>
    refine ⟨[], (List.append_nil log).symm, List.nil_prefix, ?_⟩
    intro hdone
    cases hdone
  | @tool argv plan asks next hnext ih =>
    have hasked : c.logged.tool argv (s, log) =
        ((c.tool argv s).1, (c.tool argv s).2, log ++ [.tool argv]) := rfl
    cases hreaction : (c.tool argv s).1 with
    | answer reply =>
      obtain ⟨asked, hlog, hpart, hdone⟩ := ih reply (c.tool argv s).2 (log ++ [.tool argv])
      simp only [run, hasked, hreaction]
      refine ⟨.tool argv :: asked, by rw [hlog, List.append_assoc, List.singleton_append], ?_, ?_⟩
      · exact List.cons_prefix_cons.2 ⟨rfl, hpart⟩
      · exact fun h => congrArg (argv :: ·) (hdone h)
    | crash b =>
      simp only [run, hasked, hreaction]
      refine ⟨[.tool argv], rfl, List.cons_prefix_cons.2 ⟨rfl, List.nil_prefix⟩, ?_⟩
      intro h
      cases b <;> cases h
    | silence =>
      simp only [run, hasked, hreaction]
      refine ⟨[.tool argv], rfl, List.cons_prefix_cons.2 ⟨rfl, List.nil_prefix⟩, ?_⟩
      intro h
      cases h
  | @model plan asks prompt next hbreak hnext ih =>
    have hasked : c.logged.model prompt (s, log) =
        ((c.model prompt s).1, (c.model prompt s).2, log ++ [.model prompt]) := rfl
    -- Whatever the model does, the work goes on, with the request taken down.
    have hgoesOn : ∃ reply, run c.logged (.model prompt next) (s, log) =
        (next reply).run c.logged ((c.model prompt s).2, log ++ [.model prompt]) := by
      cases hreaction : (c.model prompt s).1 with
      | answer completion => exact ⟨.ok completion, by simp only [run, hasked, hreaction]⟩
      | crash b => exact ⟨.error b, by simp only [run, hasked, hreaction]⟩
      | silence => exact ⟨.error .cancellation, by simp only [run, hasked, hreaction]⟩
    obtain ⟨reply, hrun⟩ := hgoesOn
    obtain ⟨asked, hlog, hpart, hdone⟩ := ih reply (c.model prompt s).2 (log ++ [.model prompt])
    rw [hrun]
    refine ⟨.model prompt :: asked, by rw [hlog, List.append_assoc, List.singleton_append], ?_, ?_⟩
    · exact hpart
    · exact hdone

end Script

end VarsAdvisor

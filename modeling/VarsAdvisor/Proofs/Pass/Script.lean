import VarsAdvisor.Pass.Script

/-!
# Running scripts

A script that continues another one is run after it: `run_bind` says how the second begins where the
first has ended, and `run_bind_done` takes a finished run apart.
-/

namespace VarsAdvisor

/-- The work has come to its end with a value. -/
def Ending.isDone {α : Type} : Ending α → Bool
  | .done _ => true
  | _ => false

theorem Ending.isDone_iff {α : Type} (e : Ending α) : e.isDone = true ↔ ∃ a, e = .done a := by
  cases e <;> simp [isDone]

namespace Script

variable {σ α β ε : Type}

/-- What follows a script is run from where the script has ended, if it has a value. -/
theorem run_bind (c : Collaborators σ) (script : Script α) (f : α → Script β) (s : σ) :
    (script.bind f).run c s = match script.run c s with
      | (.done a, s) => (f a).run c s
      | (.failed e, s) => (.failed e, s)
      | (.cancelled, s) => (.cancelled, s) := by
  induction script generalizing s with
  | done a => rfl
  | fault e => rfl
  | cancelled => rfl
  | tool argv next ih =>
    simp only [bind, run]
    split
    · exact ih _ _
    · next b s' _ => cases b <;> rfl
    · rfl
  | model prompt next ih =>
    simp only [bind, run]
    split <;> exact ih _ _

theorem run_bind_done {c : Collaborators σ} {script : Script α} {f : α → Script β} {s s' : σ}
    {b : β} :
    (script.bind f).run c s = (.done b, s') ↔
      ∃ a t, script.run c s = (.done a, t) ∧ (f a).run c t = (.done b, s') := by
  rw [run_bind]
  constructor
  · intro h
    split at h
    · next a t hrun => exact ⟨a, t, hrun, h⟩
    · cases h
    · cases h
  · rintro ⟨a, t, hrun, h⟩
    rw [hrun]
    exact h

theorem run_ofExcept_done {c : Collaborators σ} {fault : ε → Fault} {x : Except ε α} {s s' : σ}
    {a : α} : (ofExcept fault x).run c s = (.done a, s') ↔ x = .ok a ∧ s' = s := by
  cases x with
  | ok b =>
    simp only [ofExcept, run, Prod.mk.injEq, Ending.done.injEq, Except.ok.injEq]
    rw [eq_comm (a := s)]
  | error e => simp [ofExcept, run]

theorem run_done {c : Collaborators σ} {a b : α} {s s' : σ} :
    (Script.done a).run c s = (.done b, s') ↔ a = b ∧ s' = s := by
  simp only [run, Prod.mk.injEq, Ending.done.injEq]
  rw [eq_comm (a := s)]

end Script

end VarsAdvisor

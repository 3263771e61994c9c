import VarsAdvisor.Pass.Run
import VarsAdvisor.Proofs.Pass.Trace

/-!
# Passes one after the other

Passes that are run one after the other (`runInTurn`), each on the editor and the state outside that
the one before it left. What they ask for is what the first one asks for, then what the second one
asks for, and so on (`log_runInTurn`).
-/

namespace VarsAdvisor

variable {σ : Type}

/-- Runs passes one after the other. -/
def runInTurn (c : Collaborators σ) (crew : Crew) (overlay : OverlayId) :
    List Assignment → Editor → σ → List (Ending PassReport) × Editor × σ
  | [], e, s => ([], e, s)
  | a :: rest, e, s =>
    let first := runPass c crew a overlay e s
    let others := runInTurn c crew overlay rest first.2.1 first.2.2
    (first.1 :: others.1, others.2)

section

variable {c : Collaborators σ} {crew : Crew} {overlay : OverlayId}

/-- The last pass is run on what the others left. -/
theorem runInTurn_concat (as : List Assignment) (a : Assignment) (e : Editor) (s : σ) :
    runInTurn c crew overlay (as ++ [a]) e s =
      let others := runInTurn c crew overlay as e s
      let last := runPass c crew a overlay others.2.1 others.2.2
      (others.1 ++ [last.1], last.2) := by
  induction as generalizing e s with
  | nil => simp only [List.nil_append, runInTurn]
  | cons b as ih => simp only [List.cons_append, runInTurn, ih]

theorem isDone_conclude (e : Editor) (a : Assignment) (ending : Ending Evidence) :
    (e.conclude overlay a ending).1.isDone = ending.isDone := by
  cases ending <;> rfl

/-- What is taken down in passes that are run one after the other: for each pass, requests among
which the runs of tools are a first part of its plan, and all of it if the pass ends with a report.
-/
theorem log_runInTurn (as : List Assignment) (e : Editor) (s : σ) (log : List Asked) :
    ∃ traces : List (List Asked),
      (runInTurn c.logged crew overlay as e (s, log)).2.2.2 = log ++ traces.flatten ∧
        traces.length = as.length ∧
        ∀ (i : Nat) (a : Assignment) (trace : List Asked) (ending : Ending PassReport),
          as[i]? = some a → traces[i]? = some trace →
            (runInTurn c.logged crew overlay as e (s, log)).1[i]? = some ending →
              toolsAsked trace <+: crew.plan a ∧
                (ending.isDone = true → toolsAsked trace = crew.plan a) := by
  induction as generalizing e s log with
  | nil => exact ⟨[], (List.append_nil log).symm, rfl, fun i a _ _ hat => by cases hat⟩
  | cons a as ih =>
    obtain ⟨asked, hlog, hpart, hdone⟩ :=
      (crew.obeys_gather a ((e.beginPass overlay).surfaceOf overlay).document).log c s log
    cases hrun : (crew.work a (e.beginPass overlay) overlay).run c.logged (s, log) with
    | mk ending outside =>
      have hpass := runPass_of_run hrun
      unfold Crew.work at hrun
      rw [hrun] at hlog hdone
      obtain ⟨s', log'⟩ := outside
      obtain rfl : log' = log ++ asked := hlog
      obtain ⟨traces, hrest, hlength, hall⟩ :=
        ih ((e.beginPass overlay).conclude overlay a ending).2 s' (log ++ asked)
      refine ⟨asked :: traces, ?_, ?_, ?_⟩
      · simp only [runInTurn, hpass, hrest, List.flatten_cons, List.append_assoc]
      · simp only [List.length_cons, hlength]
      · intro i b trace ending' hb htrace hending
        simp only [runInTurn, hpass] at hending
        cases i with
        | zero =>
          cases hb
          cases htrace
          rw [List.getElem?_cons_zero] at hending
          cases hending
          refine ⟨hpart, ?_⟩
          rw [isDone_conclude]
          exact hdone
        | succ i =>
          rw [List.getElem?_cons_succ] at hb htrace hending
          exact hall i b trace ending' hb htrace hending

theorem length_runInTurn (as : List Assignment) (e : Editor) (s : σ) :
    (runInTurn c crew overlay as e s).1.length = as.length := by
  induction as generalizing e s with
  | nil => rfl
  | cons a as ih => simp only [runInTurn, List.length_cons, ih]

end

end VarsAdvisor

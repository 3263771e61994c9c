import VarsAdvisor.Pass.Run

/-!
# The work of a pass

Whatever a pass is told, its work keeps to three rules (`Script.Obeys`): it asks for the runs of
tools of a plan that is fixed before, in this order and leaving none out; it asks the chat model a
bounded number of times; and what breaks off a request to the model, unless it is an error, breaks
off the work. The plan of a pass is the validator if there is a schema, and then the linters if the
document is a YAML file (`Crew.obeys_gather`).
-/

namespace VarsAdvisor

open Suggestion

/-- An error, which may be handled. -/
def Break.isError : Break → Bool
  | .error _ _ => true
  | _ => false

namespace Script

variable {α β ε : Type}

/-- The work runs the tools of the plan, as far as it gets, and asks the model at most `asks` times.
It handles errors of the model, and passes on what else breaks a request. -/
inductive Obeys : List (List String) → Nat → Script α → Prop
  | done (asks : Nat) (a : α) : Obeys [] asks (.done a)
  | fault (plan : List (List String)) (asks : Nat) (f : Fault) : Obeys plan asks (.fault f)
  | cancelled (plan : List (List String)) (asks : Nat) : Obeys plan asks .cancelled
  | tool {argv : List String} {plan : List (List String)} {asks : Nat}
      {next : Except ToolFailure ToolRun → Script α}
      (hnext : ∀ reply, Obeys plan asks (next reply)) : Obeys (argv :: plan) asks (.tool argv next)
  | model {plan : List (List String)} {asks : Nat} {prompt : Prompt}
      {next : Except Break Completion → Script α}
      (hbreak : ∀ b : Break, b.isError = false → next (.error b) = .ofBreak b)
      (hnext : ∀ reply, Obeys plan asks (next reply)) : Obeys plan (asks + 1) (.model prompt next)

namespace Obeys

theorem ofBreak (plan : List (List String)) (asks : Nat) (b : Break) :
    (Script.ofBreak b : Script α).Obeys plan asks := by
  cases b with
  | error kind message => exact .fault plan asks _
  | stop kind message => exact .fault plan asks _
  | cancellation => exact .cancelled plan asks

theorem ofExcept (asks : Nat) (fault : ε → Fault) (x : Except ε α) :
    (Script.ofExcept fault x).Obeys [] asks := by
  cases x with
  | ok a => exact .done asks a
  | error e => exact .fault [] asks _

theorem mono {plan : List (List String)} {asks asks' : Nat} {script : Script α}
    (h : script.Obeys plan asks) (hle : asks ≤ asks') : script.Obeys plan asks' := by
  induction h generalizing asks' with
  | done asks a => exact .done asks' a
  | fault plan asks f => exact .fault plan asks' f
  | cancelled plan asks => exact .cancelled plan asks'
  | tool hnext ih => exact .tool fun reply => ih reply hle
  | model hbreak hnext ih =>
    cases asks' with
    | zero => exact absurd hle (Nat.not_succ_le_zero _)
    | succ asks' => exact .model hbreak fun reply => ih reply (Nat.le_of_succ_le_succ hle)

theorem bind {plan plan' : List (List String)} {asks asks' : Nat} {script : Script α}
    {f : α → Script β} (h : script.Obeys plan asks) (hf : ∀ a, (f a).Obeys plan' asks') :
    (script.bind f).Obeys (plan ++ plan') (asks + asks') := by
  induction h with
  | done asks a => exact (hf a).mono (Nat.le_add_left _ _)
  | fault plan asks e => exact .fault _ _ e
  | cancelled plan asks => exact .cancelled _ _
  | tool hnext ih => exact .tool ih
  | @model plan asks prompt next hbreak hnext ih =>
    rw [Nat.add_right_comm]
    refine .model ?_ ih
    intro b hb
    rw [hbreak b hb]
    cases b <;> rfl

/-- What follows may ask for nothing. -/
theorem bind_nil {plan : List (List String)} {asks : Nat} {script : Script α} {f : α → Script β}
    (h : script.Obeys plan asks) (hf : ∀ a, (f a).Obeys [] 0) :
    (script.bind f).Obeys plan asks := by
  have hbind := h.bind hf
  rwa [List.append_nil] at hbind

/-- What every run of a tool of the plan and every request to the model keeps is kept by the work.
-/
theorem keeps {σ : Type} {c : Collaborators σ} {p : σ → Prop} {plan : List (List String)}
    {asks : Nat} {script : Script α} (h : script.Obeys plan asks)
    (htool : ∀ argv ∈ plan, ∀ s, p s → p (c.tool argv s).2)
    (hmodel : ∀ prompt s, p s → p (c.model prompt s).2) {s : σ} (hs : p s) :
    p (script.run c s).2 := by
  induction h generalizing s with
  | done asks a => exact hs
  | fault plan asks f => exact hs
  | cancelled plan asks => exact hs
  | @tool argv plan asks next hnext ih =>
    have hasked := htool argv List.mem_cons_self s hs
    unfold run
    split
    · next reply s' heq =>
      rw [heq] at hasked
      exact ih reply (fun argv hmem => htool argv (List.mem_cons_of_mem _ hmem)) hasked
    · next b s' heq => rwa [heq] at hasked
    · next s' heq => rwa [heq] at hasked
  | @model plan asks prompt next hbreak hnext ih =>
    have hasked := hmodel prompt s hs
    unfold run
    split
    · next completion s' heq =>
      rw [heq] at hasked
      exact ih _ htool hasked
    · next b s' heq =>
      rw [heq] at hasked
      exact ih _ htool hasked
    · next s' heq =>
      rw [heq] at hasked
      exact ih _ htool hasked

end Obeys

end Script

/-! ## The plan of a pass -/

open Script

theorem obeys_askAdvice (hasModel : Bool) (policy : Policy) (errors : List String) (d : Document)
    (context : Context) : (askAdvice hasModel policy errors d context).Obeys [] 1 := by
  unfold askAdvice
  split
  · exact .done 1 _
  · split
    · refine .model ?_ ?_
      · intro b hb
        cases b with
        | error kind message => cases hb
        | stop kind message => rfl
        | cancellation => rfl
      · intro reply
        unfold adviceOn
        split
        · exact .done 0 _
        · exact .done 0 _
        · exact .ofBreak [] 0 _
    · exact .done 1 _

namespace Crew

/-- The runs of tools that a pass asks for unless it breaks off: the validator's if there is a
schema, and the linters' if the document is a YAML file. -/
def plan (crew : Crew) (a : Assignment) : List (List String) :=
  a.schema.toList.map (validationArgv crew.validator · a.checked) ++
    if a.document.isYaml then crew.linters.map (·.argv a.checked) else []

/-- All runs of tools of a pass are given the same file, as their last argument. -/
theorem getLast?_of_mem_plan {crew : Crew} {a : Assignment} {argv : List String}
    (h : argv ∈ crew.plan a) : argv.getLast? = some a.checked.text := by
  unfold plan at h
  rcases List.mem_append.1 h with hvalidator | hlinter
  · obtain ⟨schema, -, rfl⟩ := List.mem_map.1 hvalidator
    rfl
  · split at hlinter
    · obtain ⟨linter, -, rfl⟩ := List.mem_map.1 hlinter
      rfl
    · cases hlinter

theorem length_plan_le (crew : Crew) (a : Assignment) :
    (crew.plan a).length ≤ crew.linters.length + 1 := by
  have hschema : a.schema.toList.length ≤ 1 := by cases a.schema <;> simp
  unfold plan
  split
  · simp only [List.length_append, List.length_map]
    omega
  · simp only [List.length_append, List.length_map, List.length_nil]
    omega

theorem obeys_validate (crew : Crew) (a : Assignment) :
    (crew.validate a).Obeys
      (a.schema.toList.map (validationArgv crew.validator · a.checked)) 0 := by
  unfold validate
  cases a.schema with
  | none => exact .done 0 _
  | some schema => exact .tool fun _ => .done 0 _

theorem obeys_explain (crew : Crew) (a : Assignment) (d : Document) (outcome : Outcome) :
    (crew.explain a d outcome).Obeys [] 1 := by
  unfold explain
  split
  · exact .done 1 _
  · refine (obeys_askAdvice _ _ _ _ _).bind_nil fun advice => ?_
    exact (Obeys.ofExcept 0 _ _).bind_nil fun lines => .done 0 _

theorem obeys_lintAll (crew : Crew) (a : Assignment) (linters : List Linter) :
    (crew.lintAll a linters).Obeys (linters.map (·.argv a.checked)) 0 := by
  induction linters with
  | nil => exact .done 0 _
  | cons l rest ih =>
    have hlint : (crew.lintWith a l).Obeys [l.argv a.checked] 0 :=
      .tool fun _ => Obeys.ofExcept 0 _ _
    exact hlint.bind fun report => ih.bind_nil fun reports => .done 0 _

/-- The work of a pass keeps to its plan, asks the model once at most, and lets no stop and no
cancellation get lost. -/
theorem obeys_gather (crew : Crew) (a : Assignment) (d : Document) :
    (crew.gather a d).Obeys (crew.plan a) 1 := by
  have hlint : (crew.lint a).Obeys
      (if a.document.isYaml then crew.linters.map (·.argv a.checked) else []) 0 := by
    unfold lint
    split
    · exact crew.obeys_lintAll a _
    · exact .done 0 _
  have hplan : crew.plan a =
      [] ++ (a.schema.toList.map (validationArgv crew.validator · a.checked) ++
        ([] ++ if a.document.isYaml then crew.linters.map (·.argv a.checked) else [])) := by
    rw [List.nil_append, List.nil_append]
    rfl
  have hasks : 1 = 0 + (0 + (1 + 0)) := rfl
  rw [hplan, hasks]
  unfold gather
  refine (Obeys.ofExcept 0 _ _).bind fun syntaxFinding => ?_
  refine (crew.obeys_validate a).bind fun outcome => ?_
  refine (crew.obeys_explain a d outcome).bind fun found => ?_
  exact hlint.bind_nil fun lint => .done 0 _

end Crew

/-- A pass is its beginning, its work, and its conclusion. -/
theorem runPass_of_run {σ : Type} {c : Collaborators σ} {crew : Crew} {a : Assignment}
    {id : OverlayId} {e : Editor} {s s' : σ} {ending : Ending Evidence}
    (h : (crew.work a (e.beginPass id) id).run c s = (ending, s')) :
    runPass c crew a id e s = (((e.beginPass id).conclude id a ending).1,
      ((e.beginPass id).conclude id a ending).2, s') := by
  unfold runPass
  dsimp only
  rw [h]

end VarsAdvisor

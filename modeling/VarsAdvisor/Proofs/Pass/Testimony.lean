import VarsAdvisor.Pass.Evidence
import VarsAdvisor.Proofs.Except
import VarsAdvisor.Proofs.Pass.Script

/-!
# What a pass is told, and the evidence it draws from that

A testimony is what the three tools say in one pass, and what the chat model does when it is asked.
`gather_done` reads off a finished pass what each piece of its evidence comes from. The suggestions
are as many as the errors, whatever the model does (`Advice.length_ofAnswer`), so that pairing them
with the errors loses none (`Located`).
-/

namespace VarsAdvisor

open VarsAdvisor.Suggestion VarsAdvisor.Text

/-! ## Testimony -/

/-- What the tools say when they are run, and what the chat model does with a prompt. -/
structure Testimony where
  validation : Except ToolFailure ToolRun
  ansible : Except ToolFailure ToolRun
  yamllint : Except ToolFailure ToolRun
  model : Prompt → Reaction Completion

namespace Testimony

/-- Collaborators that give testimony. Their state is the number of runs of linters, which have the
document as their only argument. -/
def collaborators (t : Testimony) : Collaborators Nat where
  tool
    | [_, _], lints => (.answer (if lints = 0 then t.ansible else t.yamllint), lints + 1)
    | _, lints => (.answer t.validation, lints)
  model prompt lints := (t.model prompt, lints)

/-- The outcome of the validation, which needs a schema. -/
def outcome (t : Testimony) (a : Assignment) : Outcome :=
  match a.schema with
  | none => .noSchema
  | some _ => .ofReply t.validation

/-- What the model answers about errors, if there is one and it answers. -/
def completion? (t : Testimony) (hasModel : Bool) (errors : List String) (d : Document)
    (context : Context) : Option Completion :=
  if hasModel then
    match t.model (prompt errors d.numbered context) with
    | .answer completion => some completion
    | _ => none
  else none

/-- The advice on errors. -/
def advice (t : Testimony) (hasModel : Bool) (policy : Policy) (errors : List String)
    (d : Document) (context : Context) : Advice :=
  Advice.ofAnswer policy errors (t.completion? hasModel errors d context)

/-- The linters' reports without suppressed findings. Only YAML files are linted. -/
def lint (t : Testimony) (ansible yamllint : Linter) (keywords : List String) (a : Assignment) :
    Except NumeralError (List LintReport) :=
  if a.document.isYaml then do
    let first ← (ansible.report t.ansible).map (·.suppress keywords)
    let second ← (yamllint.report t.yamllint).map (·.suppress keywords)
    pure [first, second]
  else .ok []

end Testimony

/-! ## One suggestion for each error -/

namespace Suggestion

theorem length_reconcile (suggestions : List WideText) (errors : List String) :
    (reconcile suggestions errors).length = errors.length := by
  unfold reconcile
  simp only [List.length_append, List.length_take, List.length_map, List.length_drop]
  omega

theorem Advice.length_ofSuggestions (policy : Policy) (errors : List String) (c : Completion)
    (suggestions : List WideText) :
    (Advice.ofSuggestions policy errors c suggestions).suggestions.length = errors.length := by
  unfold Advice.ofSuggestions
  split
  · next h => exact h
  · cases policy with
    | reconcile => exact length_reconcile suggestions errors
    | reject => exact List.length_map _

/-- There are as many suggestions as errors, whatever the model answers. -/
theorem Advice.length_ofAnswer (policy : Policy) (errors : List String)
    (answer : Option Completion) :
    (Advice.ofAnswer policy errors answer).suggestions.length = errors.length := by
  unfold Advice.ofAnswer
  split
  · exact List.length_map _
  · split
    · exact List.length_map _
    · exact length_ofSuggestions _ _ _ _

end Suggestion

/-! ## Errors with their lines -/

/-- The entries are the errors in their order, each with its line and its suggestion. -/
structure Document.Located (d : Document) (errors : List String) (suggestions : List WideText)
    (entries : List SchemaAnnotation) : Prop where
  length : entries.length = errors.length
  entry : ∀ (i : Nat) (error : String), errors[i]? = some error → ∃ line suggestion,
    d.resolveError (ErrorLine.parse error) = .ok line ∧ suggestions[i]? = some suggestion ∧
      entries[i]? = some (⟨error, line, suggestion⟩ : SchemaAnnotation)

/-- Pairing errors with their lines and with as many suggestions loses none of them. -/
theorem Document.located_zip {d : Document} {errors : List String}
    {suggestions : List WideText} {lines : List Nat}
    (hlines : d.resolveErrors errors = .ok lines) (hlen : suggestions.length = errors.length) :
    d.Located errors suggestions (((errors.zip lines).zip suggestions).map
      fun ((error, line), suggestion) => ⟨error, line, suggestion⟩) := by
  obtain ⟨hcount, hline⟩ := except_mapM_ok_getElem? hlines
  refine ⟨?_, ?_⟩
  · simp only [List.length_map, List.length_zip, hcount, hlen, Nat.min_self]
  · intro i error herror
    obtain ⟨line, hok, hget⟩ := hline i error herror
    have hi : i < suggestions.length := by
      rw [hlen]
      exact (List.getElem?_eq_some_iff.1 herror).1
    refine ⟨line, suggestions[i], hok, List.getElem?_eq_getElem hi, ?_⟩
    have hpair : (errors.zip lines)[i]? = some (error, line) :=
      List.getElem?_zip_eq_some.2 ⟨herror, hget⟩
    have htriple :
        ((errors.zip lines).zip suggestions)[i]? = some ((error, line), suggestions[i]) :=
      List.getElem?_zip_eq_some.2 ⟨hpair, List.getElem?_eq_getElem hi⟩
    rw [List.getElem?_map, htriple]
    rfl

/-! ## Evidence -/

namespace Testimony

/-- What testimony says about a document, piece by piece. -/
structure Supports (t : Testimony) (crew : Crew) (ansible yamllint : Linter) (a : Assignment)
    (d : Document) (evidence : Evidence) : Prop where
  outcome : evidence.outcome = t.outcome a
  schema : d.Located (t.outcome a).errors
    (t.advice crew.hasModel crew.policy (t.outcome a).errors d a.context).suggestions
    evidence.schema
  source : evidence.source = if (t.outcome a).errors = [] then none else
    some (t.advice crew.hasModel crew.policy (t.outcome a).errors d a.context).source
  syntaxFinding : Yaml.check d.joinedText = .ok evidence.syntaxFinding
  lint : t.lint ansible yamllint crew.keywords a = .ok evidence.lint

theorem run_validate (t : Testimony) (crew : Crew) (a : Assignment) (n : Nat) :
    (crew.validate a).run t.collaborators n = (.done (t.outcome a), n) := by
  unfold Crew.validate Testimony.outcome
  cases a.schema <;> rfl

theorem askAdvice_done {t : Testimony} {hasModel : Bool} {policy : Policy} {errors : List String}
    {d : Document} {context : Context} {n n' : Nat} {advice : Advice} (hne : errors ≠ [])
    (h : (askAdvice hasModel policy errors d context).run t.collaborators n = (.done advice, n')) :
    advice = t.advice hasModel policy errors d context ∧ n' = n := by
  unfold askAdvice at h
  rw [if_neg hne] at h
  unfold Testimony.advice completion?
  cases hasModel with
  | false =>
    cases h
    exact ⟨rfl, rfl⟩
  | true =>
    simp only [if_true, Script.run, collaborators] at h ⊢
    cases hm : t.model (prompt errors d.numbered context) with
    | answer completion =>
      rw [hm] at h
      cases h
      exact ⟨rfl, rfl⟩
    | crash b =>
      rw [hm] at h
      cases b with
      | error kind message =>
        cases h
        exact ⟨rfl, rfl⟩
      | stop kind message => cases h
      | cancellation => cases h
    | silence =>
      rw [hm] at h
      cases h

theorem explain_done {t : Testimony} {crew : Crew} {a : Assignment} {d : Document}
    {outcome : Outcome} {n n' : Nat} {schema : List SchemaAnnotation} {source : Option Source}
    (h : (crew.explain a d outcome).run t.collaborators n = (.done (schema, source), n')) :
    d.Located outcome.errors
        (t.advice crew.hasModel crew.policy outcome.errors d a.context).suggestions schema ∧
      source = (if outcome.errors = [] then none else
        some (t.advice crew.hasModel crew.policy outcome.errors d a.context).source) ∧
      n' = n := by
  unfold Crew.explain at h
  split at h
  · next hnil =>
    obtain ⟨hpair, rfl⟩ := Script.run_done.1 h
    cases hpair
    rw [hnil, if_pos rfl]
    exact ⟨⟨rfl, fun i error herror => by cases herror⟩, rfl, rfl⟩
  · next hne =>
    obtain ⟨advice, n₁, hadvice, h⟩ := Script.run_bind_done.1 h
    obtain ⟨lines, n₂, hresolve, h⟩ := Script.run_bind_done.1 h
    obtain ⟨hpair, rfl⟩ := Script.run_done.1 h
    obtain ⟨hlines, rfl⟩ := Script.run_ofExcept_done.1 hresolve
    obtain ⟨rfl, rfl⟩ := askAdvice_done hne hadvice
    cases hpair
    rw [if_neg hne]
    exact ⟨Document.located_zip hlines (Advice.length_ofAnswer _ _ _), rfl, rfl⟩

theorem lintWith_done {t : Testimony} {crew : Crew} {a : Assignment} {l : Linter} {n n' : Nat}
    {report : LintReport}
    (h : (crew.lintWith a l).run t.collaborators n = (.done report, n')) :
    (l.report (if n = 0 then t.ansible else t.yamllint)).map (·.suppress crew.keywords) =
      .ok report ∧ n' = n + 1 :=
  Script.run_ofExcept_done.1 h

theorem lint_done {t : Testimony} {crew : Crew} {ansible yamllint : Linter}
    (hcrew : crew.linters = [ansible, yamllint]) {a : Assignment} {n : Nat}
    {reports : List LintReport}
    (h : (crew.lint a).run t.collaborators 0 = (.done reports, n)) :
    t.lint ansible yamllint crew.keywords a = .ok reports := by
  unfold Crew.lint at h
  unfold Testimony.lint
  split at h
  · next hyaml =>
    rw [if_pos hyaml]
    rw [hcrew] at h
    obtain ⟨first, n₁, hfirst, h⟩ := Script.run_bind_done.1 h
    obtain ⟨rest, n₂, hrest, h⟩ := Script.run_bind_done.1 h
    obtain ⟨second, n₃, hsecond, hrest⟩ := Script.run_bind_done.1 hrest
    obtain ⟨rfl, -⟩ := Script.run_done.1 h
    obtain ⟨rfl, -⟩ := Script.run_done.1 hrest
    obtain ⟨hreport, rfl⟩ := lintWith_done hfirst
    obtain ⟨hreport', -⟩ := lintWith_done hsecond
    rw [if_pos rfl] at hreport
    rw [if_neg (by omega)] at hreport'
    simp only [hreport, hreport', bind, Except.bind]
    rfl
  · next hyaml =>
    rw [if_neg hyaml]
    obtain ⟨rfl, -⟩ := Script.run_done.1 h
    rfl

/-- A finished pass has drawn its evidence from what it was told. -/
theorem gather_done {t : Testimony} {crew : Crew} {ansible yamllint : Linter}
    (hcrew : crew.linters = [ansible, yamllint]) {a : Assignment} {d : Document} {n : Nat}
    {evidence : Evidence}
    (h : (crew.gather a d).run t.collaborators 0 = (.done evidence, n)) :
    t.Supports crew ansible yamllint a d evidence := by
  unfold Crew.gather at h
  obtain ⟨syntaxFinding, n₁, hrun, h⟩ := Script.run_bind_done.1 h
  obtain ⟨outcome, n₂, hvalidate, h⟩ := Script.run_bind_done.1 h
  obtain ⟨⟨schema, source⟩, n₃, hexplain, h⟩ := Script.run_bind_done.1 h
  obtain ⟨reports, n₄, hlint, h⟩ := Script.run_bind_done.1 h
  obtain ⟨rfl, -⟩ := Script.run_done.1 h
  obtain ⟨hcheck, rfl⟩ := Script.run_ofExcept_done.1 hrun
  rw [run_validate] at hvalidate
  cases hvalidate
  obtain ⟨hschema, hsource, rfl⟩ := explain_done hexplain
  exact ⟨rfl, hschema, hsource, hcheck, lint_done hcrew hlint⟩

end Testimony

end VarsAdvisor

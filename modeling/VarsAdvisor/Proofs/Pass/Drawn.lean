import VarsAdvisor.Proofs.Except
import VarsAdvisor.Proofs.Pass.Merge

/-!
# The evidence of a pass as a function of testimony

`Testimony.evidence` says without scripts what a pass makes of testimony: evidence, or the fault
that breaks it off. It is what the testimony supports (`evidence_eq_ok_iff`), and a pass whose model
answers or reports an error comes to nothing else (`run_gather`, `runPass_of_speaks`).
-/

namespace VarsAdvisor

open VarsAdvisor.Suggestion VarsAdvisor.Text

/-- The ending of work that comes to a value or to a fault. -/
def Ending.ofExcept {α : Type} : Except Fault α → Ending α
  | .ok a => .done a
  | .error f => .failed f

/-- The errors in their order, each with its line and its suggestion. -/
def located (errors : List String) (lines : List Nat) (suggestions : List WideText) :
    List SchemaAnnotation :=
  ((errors.zip lines).zip suggestions).map fun ((error, line), suggestion) =>
    ⟨error, line, suggestion⟩

namespace Testimony

/-- The model answers or reports an error, whatever it is asked. -/
def Speaks (t : Testimony) : Prop :=
  ∀ prompt, (∃ completion, t.model prompt = .answer completion) ∨
    ∃ kind message, t.model prompt = .crash (.error kind message)

/-- What a pass makes of testimony about a document. -/
def evidence (t : Testimony) (crew : Crew) (ansible yamllint : Linter) (a : Assignment)
    (d : Document) : Except Fault Evidence := do
  let errors := (t.outcome a).errors
  let advice := t.advice crew.hasModel crew.policy errors d a.context
  let syntaxFinding ← (Yaml.check d.joinedText).mapError .yaml
  let lines ← (d.resolveErrors errors).mapError .position
  let lint ← (t.lint ansible yamllint crew.keywords a).mapError .numeral
  pure ⟨t.outcome a, located errors lines advice.suggestions,
    if errors = [] then none else some advice.source, syntaxFinding, lint⟩

theorem length_advice (t : Testimony) (hasModel : Bool) (policy : Policy) (errors : List String)
    (d : Document) (context : Context) :
    (t.advice hasModel policy errors d context).suggestions.length = errors.length :=
  Advice.length_ofAnswer _ _ _

/-! ## Stages of a pass -/

theorem run_ofExcept {σ α ε : Type} (c : Collaborators σ) (fault : ε → Fault) (x : Except ε α)
    (s : σ) : (Script.ofExcept fault x).run c s = (.ofExcept (x.mapError fault), s) := by
  cases x <;> rfl

theorem run_askAdvice {t : Testimony} (ht : t.Speaks) {errors : List String} (hne : errors ≠ [])
    (hasModel : Bool) (policy : Policy) (d : Document) (context : Context) (n : Nat) :
    (askAdvice hasModel policy errors d context).run t.collaborators n =
      (.done (t.advice hasModel policy errors d context), n) := by
  unfold askAdvice advice completion?
  rw [if_neg hne]
  cases hasModel with
  | false => rfl
  | true =>
    simp only [if_true, Script.run, collaborators]
    rcases ht (prompt errors d.numbered context) with ⟨completion, hm⟩ | ⟨kind, message, hm⟩
    · rw [hm]
      rfl
    · rw [hm]
      rfl

theorem run_explain {t : Testimony} (ht : t.Speaks) (crew : Crew) (a : Assignment) (d : Document)
    (outcome : Outcome) (n : Nat) :
    (crew.explain a d outcome).run t.collaborators n =
      let advice := t.advice crew.hasModel crew.policy outcome.errors d a.context
      (.ofExcept ((d.resolveErrors outcome.errors).mapError .position |>.map fun lines =>
        (located outcome.errors lines advice.suggestions,
          if outcome.errors = [] then none else some advice.source)), n) := by
  unfold Crew.explain
  split
  · next hnil =>
    rw [hnil]
    rfl
  · next hne =>
    change (Script.bind _ _).run _ _ = _
    rw [Script.run_bind, run_askAdvice ht hne]
    change (Script.bind _ _).run _ _ = _
    rw [Script.run_bind, run_ofExcept]
    cases d.resolveErrors outcome.errors with
    | error e => rfl
    | ok lines =>
      simp only [except_ok_mapError, Except.map, Ending.ofExcept, if_neg hne]
      rfl

theorem run_lint {t : Testimony} {crew : Crew} {ansible yamllint : Linter}
    (hcrew : crew.linters = [ansible, yamllint]) (a : Assignment) :
    ∃ n, (crew.lint a).run t.collaborators 0 =
      (.ofExcept ((t.lint ansible yamllint crew.keywords a).mapError .numeral), n) := by
  unfold Crew.lint Testimony.lint
  split
  case isFalse => exact ⟨0, rfl⟩
  rw [hcrew]
  have hlint : ∀ (l : Linter) (n : Nat), (crew.lintWith a l).run t.collaborators n =
      (.ofExcept (((l.report (if n = 0 then t.ansible else t.yamllint)).map
        (·.suppress crew.keywords)).mapError .numeral), n + 1) :=
    fun l n => run_ofExcept _ _ _ _
  simp only [Crew.lintAll, Bind.bind, Script.run_bind, hlint, if_pos]
  cases (ansible.report t.ansible).map (·.suppress crew.keywords) with
  | error e => exact ⟨1, rfl⟩
  | ok first =>
    simp only [except_ok_mapError, Ending.ofExcept, if_neg (Nat.succ_ne_zero 0), Nat.zero_add]
    cases (yamllint.report t.yamllint).map (·.suppress crew.keywords) with
    | error e => exact ⟨2, rfl⟩
    | ok second => exact ⟨2, rfl⟩

/-- A pass whose model speaks makes of testimony what it is said to make. -/
theorem run_gather {t : Testimony} (ht : t.Speaks) {crew : Crew} {ansible yamllint : Linter}
    (hcrew : crew.linters = [ansible, yamllint]) (a : Assignment) (d : Document) :
    ∃ n, (crew.gather a d).run t.collaborators 0 =
      (.ofExcept (t.evidence crew ansible yamllint a d), n) := by
  obtain ⟨n, hlint⟩ := run_lint hcrew (t := t) a
  unfold Crew.gather evidence
  simp only [Bind.bind, Script.run_bind, run_ofExcept, run_validate]
  cases Yaml.check d.joinedText with
  | error m => exact ⟨0, rfl⟩
  | ok syntaxFinding =>
    simp only [except_ok_mapError, Ending.ofExcept, run_explain ht]
    cases d.resolveErrors (t.outcome a).errors with
    | error e => exact ⟨0, rfl⟩
    | ok lines =>
      simp only [except_ok_mapError, Except.map, Ending.ofExcept, hlint]
      cases t.lint ansible yamllint crew.keywords a with
      | error e => exact ⟨n, rfl⟩
      | ok reports => exact ⟨n, rfl⟩

/-! ## Evidence that testimony supports -/

/-- The entries determine the lines, and are determined by them. -/
theorem located_of_entries {d : Document} {errors : List String} {suggestions : List WideText}
    {entries : List SchemaAnnotation} (h : d.Located errors suggestions entries) :
    d.resolveErrors errors = .ok (entries.map (·.line)) ∧
      entries = located errors (entries.map (·.line)) suggestions := by
  have hentry : ∀ (i : Nat) (error : String), errors[i]? = some error →
      ∃ entry, entries[i]? = some entry ∧ entry.error = error ∧
        d.resolveError (ErrorLine.parse error) = .ok entry.line ∧
        suggestions[i]? = some entry.suggestion := by
    intro i error herror
    obtain ⟨line, suggestion, hline, hsuggestion, hget⟩ := h.entry i error herror
    exact ⟨_, hget, rfl, hline, hsuggestion⟩
  constructor
  · apply except_mapM_ok_of_getElem? (by rw [List.length_map, h.length])
    intro i error herror
    obtain ⟨entry, hget, -, hline, -⟩ := hentry i error herror
    exact ⟨entry.line, hline, by rw [List.getElem?_map, hget]; rfl⟩
  · apply List.ext_getElem?
    intro i
    unfold located
    cases herror : errors[i]? with
    | none =>
      have hi : errors.length ≤ i := List.getElem?_eq_none_iff.1 herror
      rw [List.getElem?_eq_none (h.length ▸ hi), eq_comm, List.getElem?_eq_none_iff]
      simp only [List.length_map, List.length_zip]
      omega
    | some error =>
      obtain ⟨entry, hget, rfl, -, hsuggestion⟩ := hentry i error herror
      have hpair : (errors.zip (entries.map (·.line)))[i]? = some (entry.error, entry.line) :=
        List.getElem?_zip_eq_some.2 ⟨herror, by rw [List.getElem?_map, hget]; rfl⟩
      have htriple : ((errors.zip (entries.map (·.line))).zip suggestions)[i]? =
          some ((entry.error, entry.line), entry.suggestion) :=
        List.getElem?_zip_eq_some.2 ⟨hpair, hsuggestion⟩
      rw [List.getElem?_map, htriple, hget]
      rfl

/-- Both linters report, or the document is no YAML file. -/
theorem lint_ok {t : Testimony} {ansible yamllint : Linter} {keywords : List String}
    {a : Assignment} {reports : List LintReport}
    (h : t.lint ansible yamllint keywords a = .ok reports) :
    (a.document.isYaml = true ∧ ∃ first second,
      (ansible.report t.ansible).map (·.suppress keywords) = .ok first ∧
        (yamllint.report t.yamllint).map (·.suppress keywords) = .ok second ∧
        reports = [first, second]) ∨
    (a.document.isYaml = false ∧ reports = []) := by
  unfold lint at h
  split at h
  · next hyaml =>
    obtain ⟨first, hfirst, h⟩ := except_bind_ok.1 h
    obtain ⟨second, hsecond, h⟩ := except_bind_ok.1 h
    cases h
    exact .inl ⟨hyaml, first, second, hfirst, hsecond, rfl⟩
  · next hyaml =>
    cases h
    exact .inr ⟨Bool.eq_false_iff.2 hyaml, rfl⟩

variable {t : Testimony} {crew : Crew} {ansible yamllint : Linter} {a : Assignment}

/-- What testimony supports is what is made of it. -/
theorem evidence_eq_ok_iff {d : Document} {evidence : Evidence} :
    t.evidence crew ansible yamllint a d = .ok evidence ↔
      t.Supports crew ansible yamllint a d evidence := by
  unfold Testimony.evidence
  constructor
  · intro h
    obtain ⟨syntaxFinding, hcheck, h⟩ := except_bind_ok.1 h
    obtain ⟨lines, hlines, h⟩ := except_bind_ok.1 h
    obtain ⟨reports, hlint, h⟩ := except_bind_ok.1 h
    rw [except_mapError_ok] at hcheck hlines hlint
    cases h
    exact ⟨rfl, Document.located_zip hlines (t.length_advice _ _ _ _ _), rfl, hcheck, hlint⟩
  · intro h
    obtain ⟨hlines, hschema⟩ := located_of_entries h.schema
    simp only [h.syntaxFinding, hlines, h.lint, except_ok_mapError, bind, Except.bind, pure,
      Except.pure]
    rw [← hschema, ← h.source, ← h.outcome]

/-! ## Whole passes -/

/-- A pass that returns has made of its testimony what it shows. -/
theorem runPass_drawn (hcrew : crew.linters = [ansible, yamllint]) {e e' : Editor} {id : OverlayId}
    (hid : id < e.overlays.length) {report : PassReport} {n : Nat}
    (h : runPass t.collaborators crew a id e 0 = (.done report, e', n)) :
    ∃ evidence, t.evidence crew ansible yamllint a (e.surfaceOf id).document = .ok evidence ∧
      e' = (e.beginPass id).publish id evidence ∧ report = e'.reportOn id a evidence := by
  obtain ⟨evidence, hrun, he', hreport⟩ := runPass_done.1 h
  refine ⟨evidence, evidence_eq_ok_iff.2 ?_, he', hreport⟩
  have hdoc : ((e.beginPass id).surfaceOf id).document = (e.surfaceOf id).document :=
    congrArg Document.mk (Editor.awaits_beginPass hid).lines
  unfold Crew.work at hrun
  rw [hdoc] at hrun
  exact gather_done hcrew hrun

/-- A pass whose model speaks concludes with what is made of its testimony. -/
theorem runPass_of_speaks (ht : t.Speaks) (hcrew : crew.linters = [ansible, yamllint])
    (a : Assignment) {e : Editor} {id : OverlayId} (hid : id < e.overlays.length) :
    ∃ n, runPass t.collaborators crew a id e 0 =
      let concluded := (e.beginPass id).conclude id a
        (.ofExcept (t.evidence crew ansible yamllint a (e.surfaceOf id).document))
      (concluded.1, concluded.2, n) := by
  have hdoc : ((e.beginPass id).surfaceOf id).document = (e.surfaceOf id).document :=
    congrArg Document.mk (Editor.awaits_beginPass hid).lines
  obtain ⟨n, hrun⟩ := run_gather ht hcrew a (e.surfaceOf id).document
  refine ⟨n, ?_⟩
  unfold runPass Crew.work
  dsimp only
  rw [hdoc, hrun]

end Testimony

end VarsAdvisor

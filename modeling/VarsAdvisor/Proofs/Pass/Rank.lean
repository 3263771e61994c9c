import VarsAdvisor.Proofs.Finding.Reports
import VarsAdvisor.Proofs.Pass.Drawn

/-!
# Important sources are not displaced

Sources of annotations are ranked: schema, syntax, and the linters in their order. What one of them
says changes nothing of what those above it show. The reason is that a pass offers the annotations
in the order of the ranking and an overlay only grows at its end
(`exists_annotations_annotateAll`), so what two passes show of the higher sources comes from the
part of the offer that they share (`Evidence.SharesAbove`).
-/

namespace VarsAdvisor

open VarsAdvisor.Suggestion

/-- The sources of annotations, the most important first. -/
def sourceRanking : List String :=
  [Outcome.validatorName, Yaml.toolName, AnsibleLint.toolName, Yamllint.toolName]

/-- The annotation comes from a source above the given one. -/
def Annotation.outranks (x : Annotation) (source : String) : Bool :=
  decide (sourceRanking.idxOf x.source < sourceRanking.idxOf source)

/-- What an overlay shows of the sources above the given one. -/
def Overlay.above (o : Overlay) (source : String) : Table Int Annotation :=
  o.annotations.filter fun p => p.2.outranks source

/-! ## Linters sign their findings -/

theorem AnsibleLint.tool_of_finding {message : List Char} {place : Locator} {f : Finding}
    (h : finding message place = .ok f) : f.tool = toolName := by
  obtain ⟨line, -, h⟩ := except_bind_ok.1 h
  obtain ⟨column, -, h⟩ := except_bind_ok.1 h
  cases h
  rfl

theorem AnsibleLint.tool_of_readLines {lines : List (List Char)} {waiting : Option (List Char)}
    {fs : List Finding} (h : readLines waiting lines = .ok fs) : ∀ f ∈ fs, f.tool = toolName := by
  induction lines generalizing waiting fs with
  | nil =>
    cases h
    simp
  | cons raw rest ih =>
    unfold readLines at h
    dsimp only at h
    split at h
    · exact ih h
    · split at h
      · obtain ⟨f, hfinding, h⟩ := except_bind_ok.1 h
        obtain ⟨others, hrest, h⟩ := except_bind_ok.1 h
        cases h
        rw [List.forall_mem_cons]
        exact ⟨tool_of_finding hfinding, ih hrest⟩
      · exact ih h

theorem Yamllint.tool_of_finding {entry : Entry} {f : Finding} (h : entry.finding = .ok f) :
    f.tool = toolName := by
  obtain ⟨line, -, h⟩ := except_bind_ok.1 h
  obtain ⟨column, -, h⟩ := except_bind_ok.1 h
  cases h
  rfl

theorem Yamllint.tool_of_parse {stdout : String} {fs : List Finding} (h : parse stdout = .ok fs) :
    ∀ f ∈ fs, f.tool = toolName := by
  intro f hf
  obtain ⟨entry, -, hentry⟩ := except_mapM_ok_mem h hf
  exact tool_of_finding hentry

/-- The linter signs its findings with its name. -/
def Linter.Signs (l : Linter) : Prop :=
  ∀ (stdout : String) (fs : List Finding), l.read stdout = .ok fs → ∀ f ∈ fs, f.tool = l.name

theorem Linter.signs_ansible (executable : String) : (Linter.ansible executable).Signs :=
  fun _ _ h => AnsibleLint.tool_of_readLines h

theorem Linter.signs_yaml (executable : String) : (Linter.yaml executable).Signs :=
  fun _ _ h => Yamllint.tool_of_parse h

theorem Linter.Signs.report {l : Linter} (hl : l.Signs) {keywords : List String}
    {reply : Except ToolFailure ToolRun} {r : LintReport}
    (h : (l.report reply).map (·.suppress keywords) = .ok r) :
    ∀ f ∈ r.findings, f.tool = l.name := by
  cases reply with
  | error failure =>
    cases h
    intro f hf
    simp [LintReport.mem_suppress, LintReport.failure] at hf
  | ok run =>
    obtain ⟨unfiltered, hrun, rfl⟩ := except_map_ok.1 h
    obtain ⟨fs, hread, rfl⟩ := except_map_ok.1 hrun
    intro f hf
    obtain ⟨hfound, -⟩ := LintReport.mem_suppress.1 hf
    dsimp only at hfound
    split at hfound
    · simp [LintReport.failure] at hfound
    · exact hl _ _ hread f hfound

/-! ## Overlays grow at their end -/

namespace Editor

/-- What comes last in an offer and is of no rank changes nothing above. -/
theorem above_annotateAll_append {e : Editor} {id : OverlayId} (hid : id < e.overlays.length)
    {source : String} (as : List Annotation) {bs : List Annotation}
    (hbs : ∀ b ∈ bs, b.outranks source = false) :
    ((e.annotateAll id (as ++ bs)).overlay id).above source =
      ((e.annotateAll id as).overlay id).above source := by
  have hid' : id < (e.annotateAll id as).overlays.length := by rwa [length_annotateAll]
  obtain ⟨more, hmore, hfrom⟩ := exists_annotations_annotateAll hid' bs
  have hnone : (more.filter fun p => p.2.outranks source) = [] := by
    rw [List.filter_eq_nil_iff]
    intro p hp
    rw [hbs p.2 (hfrom p hp)]
    exact Bool.false_ne_true
  unfold Overlay.above
  rw [annotateAll_append, hmore, List.filter_append, hnone, List.append_nil]

end Editor

/-! ## What two testimonies share -/

namespace Testimony

variable {t t' : Testimony} {crew : Crew} {ansible yamllint : Linter} {a : Assignment}
  {d : Document} {evidence evidence' : Evidence}

/-- The syntax of a document does not depend on testimony. -/
theorem Supports.syntaxFinding_eq (h : t.Supports crew ansible yamllint a d evidence)
    (h' : t'.Supports crew ansible yamllint a d evidence') :
    evidence'.syntaxFinding = evidence.syntaxFinding := by
  have hcheck := h.syntaxFinding
  rw [h'.syntaxFinding] at hcheck
  exact Except.ok.inj hcheck

/-- What the validator and the model say settles all that is found out about the schema. -/
theorem Supports.schema_eq (h : t.Supports crew ansible yamllint a d evidence)
    (h' : t'.Supports crew ansible yamllint a d evidence')
    (hvalidation : t'.validation = t.validation) (hmodel : t'.model = t.model) :
    evidence'.outcome = evidence.outcome ∧ evidence'.schema = evidence.schema ∧
      evidence'.source = evidence.source := by
  have houtcome : t'.outcome a = t.outcome a := by
    unfold Testimony.outcome
    rw [hvalidation]
  have hadvice : ∀ errors, t'.advice crew.hasModel crew.policy errors d a.context =
      t.advice crew.hasModel crew.policy errors d a.context := by
    intro errors
    unfold advice completion?
    rw [hmodel]
  have hschema' := h'.schema
  rw [houtcome, hadvice] at hschema'
  obtain ⟨hlines, hentries⟩ := located_of_entries h.schema
  obtain ⟨hlines', hentries'⟩ := located_of_entries hschema'
  have hsame : evidence'.schema.map (·.line) = evidence.schema.map (·.line) :=
    Except.ok.inj (hlines'.symm.trans hlines)
  refine ⟨by rw [h'.outcome, h.outcome, houtcome], ?_, ?_⟩
  · rw [hentries', hsame, ← hentries]
  · rw [h'.source, h.source, houtcome, hadvice]

/-- The reports of two passes come from the same linters, each from what its linter said. -/
theorem lint_ok_both {t t' : Testimony} {ansible yamllint : Linter} {keywords : List String}
    {a : Assignment} {reports reports' : List LintReport}
    (h : t.lint ansible yamllint keywords a = .ok reports)
    (h' : t'.lint ansible yamllint keywords a = .ok reports') :
    (∃ first second first' second', reports = [first, second] ∧ reports' = [first', second'] ∧
      (t'.ansible = t.ansible → first' = first) ∧ (t'.yamllint = t.yamllint → second' = second)) ∨
    (reports = [] ∧ reports' = []) := by
  rcases lint_ok h with ⟨hyaml, first, second, hfirst, hsecond, hreports⟩ | ⟨hyaml, hreports⟩
  · rcases lint_ok h' with ⟨-, first', second', hfirst', hsecond', hreports'⟩ | ⟨hyaml', -⟩
    · refine .inl ⟨first, second, first', second', hreports, hreports', ?_, ?_⟩
      · intro hsame
        rw [hsame, hfirst] at hfirst'
        exact (Except.ok.inj hfirst').symm
      · intro hsame
        rw [hsame, hsecond] at hsecond'
        exact (Except.ok.inj hsecond').symm
    · rw [hyaml] at hyaml'
      cases hyaml'
  · rcases lint_ok h' with ⟨hyaml', -⟩ | ⟨-, hreports'⟩
    · rw [hyaml] at hyaml'
      cases hyaml'
    · exact .inr ⟨hreports, hreports'⟩

end Testimony

/-! ## What linters may displace -/

theorem outranks_of_source {x : Annotation} {source : String} (hx : x.source = source) :
    x.outranks source = false := by
  unfold Annotation.outranks
  rw [hx, decide_eq_false_iff_not]
  exact Nat.lt_irrefl _

/-- The annotations of linters are none above the first linter, and those of the second linter none
above the second. -/
theorem Testimony.outranks_lint {t : Testimony} {ansible yamllint : String}
    {keywords : List String} {a : Assignment} {reports : List LintReport}
    (h : t.lint (.ansible ansible) (.yaml yamllint) keywords a = .ok reports) :
    (∀ x ∈ reports.flatMap (fun r => r.findings.map Finding.annotation),
      x.outranks AnsibleLint.toolName = false) ∧
    ∀ r ∈ reports[1]?, ∀ x ∈ r.findings.map Finding.annotation,
      x.outranks Yamllint.toolName = false := by
  rcases lint_ok h with ⟨-, first, second, hfirst, hsecond, rfl⟩ | ⟨-, rfl⟩
  · have hansible : ∀ x ∈ first.findings.map Finding.annotation,
        x.source = AnsibleLint.toolName :=
      List.forall_mem_map.2 ((Linter.signs_ansible ansible).report hfirst)
    have hyamllint : ∀ x ∈ second.findings.map Finding.annotation, x.source = Yamllint.toolName :=
      List.forall_mem_map.2 ((Linter.signs_yaml yamllint).report hsecond)
    constructor
    · intro x hx
      obtain ⟨r, hr, hxr⟩ := List.mem_flatMap.1 hx
      simp only [List.mem_cons, List.not_mem_nil, or_false] at hr
      rcases hr with rfl | rfl
      · exact outranks_of_source (hansible x hxr)
      · unfold Annotation.outranks
        rw [hyamllint x hxr]
        decide
    · intro r hr x hx
      cases hr
      exact outranks_of_source (hyamllint x hx)
  · constructor
    · intro x hx
      cases hx
    · intro r hr
      cases hr

/-- What two passes offer begins alike, and goes on with annotations of no rank. -/
def Evidence.SharesAbove (source : String) (evidence evidence' : Evidence) : Prop :=
  ∃ shared rest rest', evidence.annotations = shared ++ rest ∧
    evidence'.annotations = shared ++ rest' ∧
    (∀ x ∈ rest, x.outranks source = false) ∧ ∀ x ∈ rest', x.outranks source = false

theorem Evidence.SharesAbove.above_publish {source : String} {evidence evidence' : Evidence}
    (h : evidence.SharesAbove source evidence') {e : Editor} {id : OverlayId}
    (hid : id < e.overlays.length) :
    ((e.publish id evidence').overlay id).above source =
      ((e.publish id evidence).overlay id).above source := by
  obtain ⟨shared, rest, rest', hall, hall', hrest, hrest'⟩ := h
  unfold Editor.publish
  rw [hall, hall', Editor.above_annotateAll_append hid shared hrest,
    Editor.above_annotateAll_append hid shared hrest']

namespace Testimony.Supports

variable {t t' : Testimony} {crew : Crew} {ansible yamllint : String} {a : Assignment}
  {d : Document} {evidence evidence' : Evidence}

theorem sharesAbove_ansible (h : t.Supports crew (.ansible ansible) (.yaml yamllint) a d evidence)
    (h' : t'.Supports crew (.ansible ansible) (.yaml yamllint) a d evidence')
    (hvalidation : t'.validation = t.validation) (hmodel : t'.model = t.model) :
    evidence.SharesAbove AnsibleLint.toolName evidence' := by
  obtain ⟨-, hschema, -⟩ := h.schema_eq h' hvalidation hmodel
  refine ⟨_, _, _, rfl, ?_, (outranks_lint h.lint).1, (outranks_lint h'.lint).1⟩
  unfold Evidence.annotations
  rw [hschema, h.syntaxFinding_eq h']

theorem sharesAbove_yamllint (h : t.Supports crew (.ansible ansible) (.yaml yamllint) a d evidence)
    (h' : t'.Supports crew (.ansible ansible) (.yaml yamllint) a d evidence')
    (hvalidation : t'.validation = t.validation) (hmodel : t'.model = t.model)
    (hansible : t'.ansible = t.ansible) : evidence.SharesAbove Yamllint.toolName evidence' := by
  obtain ⟨-, hschema, -⟩ := h.schema_eq h' hvalidation hmodel
  have hcheck := h.syntaxFinding_eq h'
  rcases lint_ok_both h.lint h'.lint with
    ⟨first, second, first', second', hr, hr', hfirst, -⟩ | ⟨hr, hr'⟩
  · refine ⟨evidence.schema.map SchemaAnnotation.annotation ++
        evidence.syntaxFinding.toList.map Finding.annotation ++
          first.findings.map Finding.annotation,
      second.findings.map Finding.annotation, second'.findings.map Finding.annotation,
      ?_, ?_, (outranks_lint h.lint).2 second (by rw [hr]; rfl),
      (outranks_lint h'.lint).2 second' (by rw [hr']; rfl)⟩
    · unfold Evidence.annotations
      rw [hr]
      simp
    · unfold Evidence.annotations
      rw [hr', hschema, hcheck, hfirst hansible]
      simp
  · refine ⟨evidence.annotations, [], [], (List.append_nil _).symm, ?_, by simp, by simp⟩
    unfold Evidence.annotations
    rw [hr, hr', hschema, hcheck, List.append_nil]

end Testimony.Supports

/-- A line with a schema error is annotated by the schema. -/
theorem Editor.source_publish {e later : Editor} {id : OverlayId} (h : e.Awaits id later)
    {evidence : Evidence} {entry : SchemaAnnotation} (hentry : entry ∈ evidence.schema)
    (hfirst : 1 ≤ entry.line) (hlast : entry.line ≤ (e.surfaceOf id).document.lineCount) :
    ∃ x, ((later.publish id evidence).overlay id).annotations.get? entry.line = some x ∧
      x.source = Outcome.validatorName := by
  have hschema : ∃ x, (evidence.schema.map SchemaAnnotation.annotation).find?
      (·.line = (entry.line : Int)) = some x := by
    rw [← Option.isSome_iff_exists, List.find?_isSome]
    exact ⟨entry.annotation, List.mem_map_of_mem hentry, decide_eq_true rfl⟩
  obtain ⟨x, hx⟩ := hschema
  obtain ⟨other, -, hother⟩ := List.mem_map.1 (List.mem_of_find?_eq_some hx)
  refine ⟨x, ?_, by rw [← hother]; rfl⟩
  rw [get?_publish h, if_pos ⟨by omega, by omega⟩, ← evidence.annotations_eq_merged]
  unfold Evidence.annotations
  rw [List.append_assoc, List.find?_append, hx]
  rfl

/-- **Important sources are not displaced.** If only one linter says something else, a pass finds
the same about the schema and the syntax, the other linter reports the same, and the overlay shows
the same of all sources above that linter. If only the validator says something else, syntax and
linters are the same. And each line of the document with a schema error is annotated by the schema.
-/
theorem runPass_keeps_rank {t t' : Testimony} (hmodel : t'.model = t.model)
    {crew : Crew} {ansible yamllint : String}
    (hcrew : crew.linters = [.ansible ansible, .yaml yamllint]) {a : Assignment}
    {e e₁ e₂ : Editor} {id : OverlayId} (hid : id < e.overlays.length)
    {report report' : PassReport} {n n' : Nat}
    (h : runPass t.collaborators crew a id e 0 = (.done report, e₁, n))
    (h' : runPass t'.collaborators crew a id e 0 = (.done report', e₂, n')) :
    let found := report.evidence
    let found' := report'.evidence
    (t'.validation = t.validation →
      (found'.outcome = found.outcome ∧ found'.schema = found.schema ∧
        found'.source = found.source ∧ found'.syntaxFinding = found.syntaxFinding) ∧
      (t'.yamllint = t.yamllint → found'.lint[1]? = found.lint[1]? ∧
        (e₂.overlay id).above AnsibleLint.toolName = (e₁.overlay id).above AnsibleLint.toolName) ∧
      (t'.ansible = t.ansible → found'.lint[0]? = found.lint[0]? ∧
        (e₂.overlay id).above Yamllint.toolName = (e₁.overlay id).above Yamllint.toolName)) ∧
    (t'.ansible = t.ansible → t'.yamllint = t.yamllint →
      found'.syntaxFinding = found.syntaxFinding ∧ found'.lint = found.lint) ∧
    ∀ entry ∈ found.schema, 1 ≤ entry.line → entry.line ≤ (e.surfaceOf id).document.lineCount →
      ∃ x, (e₁.overlay id).annotations.get? entry.line = some x ∧
        x.source = Outcome.validatorName := by
  obtain ⟨found, hfound, rfl, rfl⟩ := Testimony.runPass_drawn hcrew hid h
  obtain ⟨found', hfound', rfl, rfl⟩ := Testimony.runPass_drawn hcrew hid h'
  rw [Testimony.evidence_eq_ok_iff] at hfound hfound'
  have hbegun := Editor.awaits_beginPass hid
  have hcheck := hfound.syntaxFinding_eq hfound'
  have hreports := Testimony.lint_ok_both hfound.lint hfound'.lint
  refine ⟨?_, ?_, fun entry hentry => Editor.source_publish hbegun hentry⟩
  · intro hvalidation
    obtain ⟨houtcome, hschema, hsource⟩ := hfound.schema_eq hfound' hvalidation hmodel
    refine ⟨⟨houtcome, hschema, hsource, hcheck⟩, ?_, ?_⟩
    · intro hyamllint
      refine ⟨?_, (hfound.sharesAbove_ansible hfound' hvalidation hmodel).above_publish
        hbegun.inUse⟩
      show found'.lint[1]? = found.lint[1]?
      rcases hreports with ⟨_, _, _, _, hr, hr', -, hsecond⟩ | ⟨hr, hr'⟩
      · rw [hr, hr', hsecond hyamllint]
        rfl
      · rw [hr, hr']
    · intro hansible
      refine ⟨?_, (hfound.sharesAbove_yamllint hfound' hvalidation hmodel hansible).above_publish
        hbegun.inUse⟩
      show found'.lint[0]? = found.lint[0]?
      rcases hreports with ⟨_, _, _, _, hr, hr', hfirst, -⟩ | ⟨hr, hr'⟩
      · rw [hr, hr', hfirst hansible]
        rfl
      · rw [hr, hr']
  · intro hansible hyamllint
    refine ⟨hcheck, ?_⟩
    show found'.lint = found.lint
    rcases hreports with ⟨_, _, _, _, hr, hr', hfirst, hsecond⟩ | ⟨hr, hr'⟩
    · rw [hr, hr', hfirst hansible, hsecond hyamllint]
    · rw [hr, hr']

/-- The linter that is gone in the second pass annotated one line of two in the first, and had a
finding on the other, which has a schema error. -/
theorem runPass_keeps_rank_without_linter :
    let t : Testimony :=
      ⟨.ok ⟨[], 1, "Validation failed!\nc.d: bad", ""⟩,
        .ok ⟨[], 2, "odd\nv.yml:2\nodd\nv.yml:1", ""⟩, .ok ⟨[], 0, "", ""⟩, fun _ => .silence⟩
    let t' : Testimony := { t with ansible := .error ⟨"ansible-lint", "gone"⟩ }
    let crew : Crew := ⟨"yamale", [.ansible "ansible-lint", .yaml "yamllint"], false, .reject, []⟩
    let a : Assignment := ⟨.ofText "v.yml", some (.ofText "s.yml"), ⟨none, none, none, none⟩, none⟩
    let e : Editor := ⟨[.ofLines ["x:", "c:"]], [.onSurface 0], [], 0⟩
    ∃ report report' e₁ e₂ n n',
      runPass t.collaborators crew a 0 e 0 = (.done report, e₁, n) ∧
      runPass t'.collaborators crew a 0 e 0 = (.done report', e₂, n') ∧
      (e₁.overlay 0).annotations.keys = [2, 1] ∧
      report'.evidence.schema = report.evidence.schema ∧
      (e₂.overlay 0).above AnsibleLint.toolName = (e₁.overlay 0).above AnsibleLint.toolName := by
  intro t t' crew a e
  obtain ⟨⟨ending, e₁, n⟩, h⟩ : ∃ result, runPass t.collaborators crew a 0 e 0 = result :=
    ⟨_, rfl⟩
  obtain ⟨⟨ending', e₂, n'⟩, h'⟩ : ∃ result, runPass t'.collaborators crew a 0 e 0 = result :=
    ⟨_, rfl⟩
  have hrun : (runPass t.collaborators crew a 0 e 0).1.isDone = true ∧
      ((runPass t.collaborators crew a 0 e 0).2.1.overlay 0).annotations.keys = [2, 1] := by
    decide +kernel
  have hrun' : (runPass t'.collaborators crew a 0 e 0).1.isDone = true := by decide +kernel
  rw [h] at hrun
  rw [h'] at hrun'
  obtain ⟨report, rfl⟩ := (Ending.isDone_iff _).1 hrun.1
  obtain ⟨report', rfl⟩ := (Ending.isDone_iff _).1 hrun'
  have hmodel : t'.model = t.model := rfl
  obtain ⟨hsame, -, -⟩ := runPass_keeps_rank hmodel rfl (by decide) h h'
  obtain ⟨⟨-, hschema, -, -⟩, habove, -⟩ := hsame rfl
  exact ⟨report, report', e₁, e₂, n, n', h, h', hrun.2, hschema, (habove rfl).2⟩

end VarsAdvisor

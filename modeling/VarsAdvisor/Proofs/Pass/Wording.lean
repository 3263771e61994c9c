import VarsAdvisor.Proofs.Pass.Drawn

/-!
# The model has a say in wording only

Two passes that differ in nothing but the chat model and in what is done with its replies differ in
nothing but the wording of the suggestions: erasing it makes them equal (`runPass_wording`). The
wording is erased by a map (`unworded`) with which every stage of a pass commutes. That works
because there are as many suggestions as errors, and because an overlay looks at lines alone when it
decides whether to take an annotation (`Editor.Rewords.accepts`).
-/

namespace VarsAdvisor

open VarsAdvisor.Suggestion VarsAdvisor.Text

/-! ## Erasing the wording -/

/-- An annotation without its text, if the text is a suggestion. -/
def Annotation.unworded (x : Annotation) : Annotation :=
  if x.source = Outcome.validatorName then { x with text := "" } else x

/-- An error with its line but without the suggestion for it. -/
def SchemaAnnotation.unworded (entry : SchemaAnnotation) : SchemaAnnotation :=
  { entry with suggestion := "" }

/-- Evidence without suggestions, and without who worded them. -/
def Evidence.unworded (evidence : Evidence) : Evidence :=
  { evidence with schema := evidence.schema.map SchemaAnnotation.unworded, source := none }

/-- A report without the wording of suggestions. -/
def PassReport.unworded (report : PassReport) : PassReport :=
  ⟨report.document, report.evidence.unworded, report.annotations.map Annotation.unworded⟩

/-- What an overlay shows, without the wording of suggestions. -/
def Overlay.unworded (o : Overlay) : Table Int Annotation :=
  o.annotations.map fun p => (p.1, p.2.unworded)

@[simp] theorem Annotation.line_unworded (x : Annotation) : x.unworded.line = x.line := by
  unfold unworded
  split <;> rfl

/-! ## Evidence -/

theorem map_unworded_located {errors : List String} {lines : List Nat}
    {suggestions : List WideText}
    (hlen : suggestions.length = errors.length) :
    (located errors lines suggestions).map SchemaAnnotation.unworded =
      (errors.zip lines).map fun (error, line) => ⟨error, line, ""⟩ := by
  have hpairs : (errors.zip lines).length ≤ suggestions.length := by
    rw [hlen, List.length_zip]
    exact Nat.min_le_left _ _
  unfold located
  rw [List.map_map]
  calc ((errors.zip lines).zip suggestions).map _
      = (((errors.zip lines).zip suggestions).map Prod.fst).map
          fun (error, line) => (⟨error, line, ""⟩ : SchemaAnnotation) := by
        rw [List.map_map]
        rfl
    _ = _ := by rw [List.map_fst_zip hpairs]

/-- The wording apart, evidence does not depend on the model or on what is done with its replies. -/
theorem Testimony.evidence_unworded (t : Testimony) (model' : Prompt → Reaction Completion)
    (crew : Crew) (hasModel' : Bool) (policy' : Policy) (ansible yamllint : Linter) (a : Assignment)
    (d : Document) :
    (({ t with model := model' } : Testimony).evidence
        { crew with hasModel := hasModel', policy := policy' } ansible yamllint a d).map
          Evidence.unworded =
      (t.evidence crew ansible yamllint a d).map Evidence.unworded := by
  have houtcome : ({ t with model := model' } : Testimony).outcome a = t.outcome a := rfl
  have hlint : ({ t with model := model' } : Testimony).lint ansible yamllint crew.keywords a =
      t.lint ansible yamllint crew.keywords a := rfl
  unfold evidence
  simp only [houtcome, hlint, bind, Except.bind, pure, Except.pure]
  cases (Yaml.check d.joinedText).mapError Fault.yaml with
  | error f => rfl
  | ok syntaxFinding =>
    cases (d.resolveErrors (t.outcome a).errors).mapError Fault.position with
    | error f => rfl
    | ok lines =>
      cases (t.lint ansible yamllint crew.keywords a).mapError Fault.numeral with
      | error f => rfl
      | ok reports =>
        simp only [Except.map, Evidence.unworded]
        rw [map_unworded_located (length_advice _ _ _ _ _ _),
          map_unworded_located (length_advice _ _ _ _ _ _)]

theorem Evidence.map_unworded_annotations (evidence : Evidence) :
    evidence.annotations.map Annotation.unworded =
      evidence.unworded.annotations.map Annotation.unworded := by
  have hschema : (evidence.schema.map SchemaAnnotation.annotation).map Annotation.unworded =
      ((evidence.schema.map SchemaAnnotation.unworded).map SchemaAnnotation.annotation).map
        Annotation.unworded := by
    rw [List.map_map, List.map_map, List.map_map]
    rfl
  unfold annotations unworded
  rw [List.map_append, List.map_append, hschema, ← List.map_append, ← List.map_append]

/-! ## Overlays -/

theorem Overlay.get?_unworded (o : Overlay) (l : Int) :
    o.unworded.get? l = (o.annotations.get? l).map Annotation.unworded :=
  Table.get?_map _ _ _

theorem Overlay.map_unworded_sorted (o : Overlay) :
    o.sorted.map Annotation.unworded =
      (o.unworded.map (·.2)).mergeSort fun a b => a.line ≤ b.line := by
  unfold sorted unworded
  rw [List.map_mergeSort (s := fun a b => a.line ≤ b.line) (by simp), List.map_map, List.map_map]
  rfl

namespace Editor

/-- Two overlays over the same lines that show the same but for the wording. -/
structure Rewords (id : OverlayId) (e e' : Editor) : Prop where
  inUse : id < e.overlays.length
  inUse' : id < e'.overlays.length
  unworded : (e'.overlay id).unworded = (e.overlay id).unworded
  lines : (e'.surfaceOf id).lines = (e.surfaceOf id).lines

theorem Rewords.refl {e : Editor} {id : OverlayId} (hid : id < e.overlays.length) :
    Rewords id e e :=
  ⟨hid, hid, rfl, rfl⟩

namespace Rewords

variable {e e' : Editor} {id : OverlayId}

/-- Whether an annotation is taken does not depend on the wording of others. -/
theorem accepts (h : Rewords id e e') (l : Int) : e'.accepts id l = e.accepts id l := by
  have hhas : (e'.overlay id).annotations.has l = (e.overlay id).annotations.has l := by
    have hget := congrArg (Table.get? · l) h.unworded
    simp only [Overlay.get?_unworded] at hget
    unfold Table.has
    rw [← Option.isSome_map (f := Annotation.unworded), hget, Option.isSome_map]
  unfold Editor.accepts
  rw [hhas, hasLine_congr h.lines]

theorem annotate (h : Rewords id e e') {x x' : Annotation} (hx : x'.unworded = x.unworded) :
    Rewords id (e.annotate id x).1 (e'.annotate id x').1 := by
  have hline : x'.line = x.line := by
    rw [← x'.line_unworded, hx, x.line_unworded]
  refine ⟨?_, ?_, ?_, ?_⟩
  · rw [length_annotate]
    exact h.inUse
  · rw [length_annotate]
    exact h.inUse'
  · unfold Overlay.unworded
    rw [annotations_annotate h.inUse, annotations_annotate h.inUse', hline, h.accepts]
    split
    · rw [Table.map_put, Table.map_put, hx]
      exact congrArg (Table.put · x.line x.unworded) h.unworded
    · exact h.unworded
  · rw [lines_surfaceOf_annotate h.inUse, lines_surfaceOf_annotate h.inUse', h.lines]

/-- Offers that differ in the wording only give overlays that do. -/
theorem annotateAll (h : Rewords id e e') {xs xs' : List Annotation}
    (hxs : xs'.map Annotation.unworded = xs.map Annotation.unworded) :
    Rewords id (e.annotateAll id xs) (e'.annotateAll id xs') := by
  induction xs generalizing e e' xs' with
  | nil =>
    rw [List.map_nil, List.map_eq_nil_iff] at hxs
    rw [hxs]
    exact h
  | cons x xs ih =>
    obtain ⟨x', rest', rfl, hx, hrest⟩ := List.map_eq_cons_iff.1 hxs
    rw [annotateAll_cons, annotateAll_cons]
    exact ih (h.annotate hx) hrest

end Rewords

theorem publish_unworded {e : Editor} {id : OverlayId} (hid : id < e.overlays.length)
    {evidence evidence' : Evidence} (h : evidence'.unworded = evidence.unworded) :
    ((e.publish id evidence').overlay id).unworded =
      ((e.publish id evidence).overlay id).unworded := by
  have hoffer : evidence'.annotations.map Annotation.unworded =
      evidence.annotations.map Annotation.unworded := by
    rw [evidence'.map_unworded_annotations, evidence.map_unworded_annotations, h]
  exact ((Rewords.refl hid).annotateAll hoffer).unworded

theorem reportOn_unworded {e e' : Editor} {id : OverlayId} {evidence evidence' : Evidence}
    (hshown : (e'.overlay id).unworded = (e.overlay id).unworded)
    (h : evidence'.unworded = evidence.unworded) (a : Assignment) :
    (e'.reportOn id a evidence').unworded = (e.reportOn id a evidence).unworded := by
  unfold reportOn PassReport.unworded
  rw [Overlay.map_unworded_sorted, Overlay.map_unworded_sorted, hshown, h]

/-- Findings that differ in the wording only lead to reports and overlays that do. -/
theorem conclude_unworded {e : Editor} {id : OverlayId} (hid : id < e.overlays.length)
    (a : Assignment) {found found' : Except Fault Evidence}
    (h : found'.map Evidence.unworded = found.map Evidence.unworded) :
    (e.conclude id a (.ofExcept found')).1.map PassReport.unworded =
        (e.conclude id a (.ofExcept found)).1.map PassReport.unworded ∧
      ((e.conclude id a (.ofExcept found')).2.overlay id).unworded =
        ((e.conclude id a (.ofExcept found)).2.overlay id).unworded := by
  cases found with
  | error f =>
    rw [except_map_error.1 h]
    exact ⟨rfl, rfl⟩
  | ok evidence =>
    obtain ⟨evidence', rfl, hsame⟩ := except_map_ok.1 h
    have hshown := publish_unworded hid hsame
    exact ⟨congrArg Ending.done (reportOn_unworded hshown hsame a), hshown⟩

end Editor

/-! ## Whole passes -/

/-- **The model has a say in wording only.** If two passes differ in the chat model, in whether
there is one, or in the policy, they end alike, and their reports and overlays are equal up to the
wording of the suggestions and who is named for it. This holds if both models answer or report an
error when they are asked, and for all passes that give a report. -/
theorem runPass_wording (t : Testimony) (model' : Prompt → Reaction Completion) {crew : Crew}
    {ansible yamllint : Linter} (hcrew : crew.linters = [ansible, yamllint]) (hasModel' : Bool)
    (policy' : Policy) (a : Assignment) {e e₁ e₂ : Editor} {id : OverlayId}
    (hid : id < e.overlays.length) {ending ending' : Ending PassReport} {n n' : Nat}
    (h : runPass t.collaborators crew a id e 0 = (ending, e₁, n))
    (h' : runPass ({ t with model := model' } : Testimony).collaborators
        { crew with hasModel := hasModel', policy := policy' } a id e 0 = (ending', e₂, n'))
    (hspeak : (t.Speaks ∧ ({ t with model := model' } : Testimony).Speaks) ∨
      (ending.isDone = true ∧ ending'.isDone = true)) :
    ending'.map PassReport.unworded = ending.map PassReport.unworded ∧
      (e₂.overlay id).unworded = (e₁.overlay id).unworded := by
  have hcrew' : ({ crew with hasModel := hasModel', policy := policy' } : Crew).linters =
      [ansible, yamllint] := hcrew
  have hbegun := (Editor.awaits_beginPass hid).inUse
  have hevidence := t.evidence_unworded model' crew hasModel' policy' ansible yamllint a
    (e.surfaceOf id).document
  rcases hspeak with ⟨ht, ht'⟩ | ⟨hdone, hdone'⟩
  · obtain ⟨_, hpass⟩ := Testimony.runPass_of_speaks ht hcrew a hid
    obtain ⟨_, hpass'⟩ := Testimony.runPass_of_speaks ht' hcrew' a hid
    obtain ⟨rfl, hrest⟩ := Prod.mk.inj (hpass.symm.trans h)
    obtain ⟨rfl, -⟩ := Prod.mk.inj hrest
    obtain ⟨rfl, hrest'⟩ := Prod.mk.inj (hpass'.symm.trans h')
    obtain ⟨rfl, -⟩ := Prod.mk.inj hrest'
    exact Editor.conclude_unworded hbegun a hevidence
  · obtain ⟨report, rfl⟩ := (Ending.isDone_iff _).1 hdone
    obtain ⟨report', rfl⟩ := (Ending.isDone_iff _).1 hdone'
    obtain ⟨evidence, hdrawn, rfl, rfl⟩ := Testimony.runPass_drawn hcrew hid h
    obtain ⟨evidence', hdrawn', rfl, rfl⟩ := Testimony.runPass_drawn hcrew' hid h'
    rw [hdrawn, hdrawn'] at hevidence
    have hsame := Except.ok.inj hevidence
    have hshown := Editor.publish_unworded hbegun hsame
    exact ⟨congrArg Ending.done (Editor.reportOn_unworded hshown hsame a), hshown⟩

/-- A model that words the one suggestion, and one that fails: the overlays differ, but only in the
wording. -/
theorem runPass_wording_failing_model :
    let t : Testimony :=
      ⟨.ok ⟨[], 1, "Validation failed!\nc.d: bad", ""⟩,
        .ok ⟨[], 2, "odd\nv.yml:2\nodd\nv.yml:1", ""⟩, .ok ⟨[], 0, "", ""⟩,
        fun _ => .answer ⟨"[\"better\"]", "m", 1, 1⟩⟩
    let failing : Prompt → Reaction Completion := fun _ => .crash (.error "OSError" "gone")
    let crew : Crew := ⟨"yamale", [.ansible "ansible-lint", .yaml "yamllint"], true, .reject, []⟩
    let a : Assignment := ⟨.ofText "v.yml", some (.ofText "s.yml"), ⟨none, none, none, none⟩, none⟩
    let e : Editor := ⟨[.ofLines ["x:", "c:"]], [.onSurface 0], [], 0⟩
    let t' := { t with model := failing }
    let crew' := { crew with hasModel := true, policy := .reconcile }
    ∃ ending ending' e₁ e₂ n n',
      runPass t.collaborators crew a 0 e 0 = (ending, e₁, n) ∧
      runPass t'.collaborators crew' a 0 e 0 = (ending', e₂, n') ∧
      t.Speaks ∧ t'.Speaks ∧ ending.isDone = true ∧
      (e₂.overlay 0).annotations ≠ (e₁.overlay 0).annotations ∧
      ending'.map PassReport.unworded = ending.map PassReport.unworded ∧
      (e₂.overlay 0).unworded = (e₁.overlay 0).unworded := by
  intro t failing crew a e t' crew'
  have ht : t.Speaks := fun _ => .inl ⟨_, rfl⟩
  have ht' : t'.Speaks := fun _ => .inr ⟨_, _, rfl⟩
  have hcrew : crew.linters = [.ansible "ansible-lint", .yaml "yamllint"] := rfl
  have hid : 0 < e.overlays.length := by decide
  have hdone : (runPass t.collaborators crew a 0 e 0).1.isDone = true := by decide +kernel
  have hdiffer : ((runPass t'.collaborators crew' a 0 e 0).2.1.overlay 0).annotations ≠
      ((runPass t.collaborators crew a 0 e 0).2.1.overlay 0).annotations := by
    decide +kernel
  obtain ⟨⟨ending, e₁, n⟩, h⟩ : ∃ result, runPass t.collaborators crew a 0 e 0 = result :=
    ⟨_, rfl⟩
  obtain ⟨⟨ending', e₂, n'⟩, h'⟩ : ∃ result, runPass t'.collaborators crew' a 0 e 0 = result :=
    ⟨_, rfl⟩
  have hsame := runPass_wording t failing hcrew true .reconcile a hid h h' (.inl ⟨ht, ht'⟩)
  rw [h] at hdone
  rw [h, h'] at hdiffer
  exact ⟨ending, ending', e₁, e₂, n, n', h, h', ht, ht', hdone, hdiffer, hsame⟩

end VarsAdvisor

import VarsAdvisor.Pass.Run
import VarsAdvisor.Proofs.Editor.FirstWins
import VarsAdvisor.Proofs.Pass.Testimony

/-!
# What an overlay shows after a pass

A finished pass leaves an overlay that shows, on each line of the document, the first annotation
that any of its sources has for the line, the sources being ranked: schema errors, syntax, the
linters in their order. Nothing of what the overlay showed before is left, and what others do to
other overlays during the pass makes no difference.
-/

namespace VarsAdvisor

open VarsAdvisor.Suggestion

/-- The annotations of all sources, the most important source first. -/
def merged (entries : List SchemaAnnotation) (syntaxFinding : Option Finding)
    (reports : List LintReport) : List Annotation :=
  entries.map (fun e => ⟨e.line, e.suggestion, "yamale"⟩) ++
    (syntaxFinding.toList ++ reports.flatMap LintReport.findings).map fun f =>
      ⟨f.line, s!"[{f.tool}]: " ++ f.message, f.tool⟩

/-- The annotations that a pass wants to make are those of its sources in order of rank. -/
theorem Evidence.annotations_eq_merged (e : Evidence) :
    e.annotations = merged e.schema e.syntaxFinding e.lint := by
  unfold Evidence.annotations merged
  rw [List.map_append, List.map_flatMap, List.append_assoc]
  rfl

/-- A pass that returns has gathered evidence, shown it, and reported on it. -/
theorem runPass_done {σ : Type} {c : Collaborators σ} {crew : Crew} {a : Assignment}
    {id : OverlayId} {e e' : Editor} {s s' : σ} {report : PassReport} :
    runPass c crew a id e s = (.done report, e', s') ↔
      ∃ evidence, (crew.work a (e.beginPass id) id).run c s = (.done evidence, s') ∧
        e' = (e.beginPass id).publish id evidence ∧ report = e'.reportOn id a evidence := by
  unfold runPass
  dsimp only
  generalize (crew.work a (e.beginPass id) id).run c s = result
  obtain ⟨ending, t⟩ := result
  cases ending with
  | done evidence =>
    simp only [Editor.conclude, Prod.mk.injEq, Ending.done.injEq]
    constructor
    · rintro ⟨rfl, rfl, rfl⟩
      exact ⟨evidence, ⟨rfl, rfl⟩, rfl, rfl⟩
    · rintro ⟨_, ⟨rfl, rfl⟩, rfl, rfl⟩
      exact ⟨rfl, rfl, rfl⟩
  | failed f => simp [Editor.conclude]
  | cancelled => simp [Editor.conclude]

namespace Editor

/-- The overlay of a pass that is under way shows nothing, and nobody has changed its lines since
the pass began in `e`. -/
structure Awaits (e : Editor) (id : OverlayId) (later : Editor) : Prop where
  inUse : id < later.overlays.length
  overlay : later.overlay id = .onSurface (e.overlay id).surface
  lines : (later.surfaceOf id).lines = (e.surfaceOf id).lines

theorem awaits_beginPass {e : Editor} {id : OverlayId} (hid : id < e.overlays.length) :
    e.Awaits id (e.beginPass id) := by
  have hoverlay := overlay_clear_self hid
  refine ⟨by rwa [beginPass, length_clear], hoverlay, ?_⟩
  unfold surfaceOf beginPass
  rw [hoverlay]
  exact lines_clear e id _

/-- After a pass each existing line shows the first annotation for it. -/
theorem get?_publish {e later : Editor} {id : OverlayId} (h : e.Awaits id later)
    (evidence : Evidence) (l : Int) :
    ((later.publish id evidence).overlay id).annotations.get? l =
      if 1 ≤ l ∧ l ≤ (e.surfaceOf id).document.lineCount then
        (merged evidence.schema evidence.syntaxFinding evidence.lint).find? (·.line = l)
      else none := by
  unfold publish
  rw [get?_annotateAll h.inUse, h.overlay, hasLine_congr h.lines, evidence.annotations_eq_merged]
  have hrange : (e.surfaceOf id).hasLine l = true ↔
      1 ≤ l ∧ l ≤ (e.surfaceOf id).document.lineCount := by
    unfold Surface.hasLine
    rw [Bool.and_eq_true, decide_eq_true_iff, decide_eq_true_iff]
    rfl
  simp only [hrange]
  rfl

theorem wf_publish {e later : Editor} {id : OverlayId} (h : e.Awaits id later)
    (evidence : Evidence) : ((later.publish id evidence).overlay id).WF := by
  apply wf_annotateAll h.inUse
  rw [h.overlay]
  exact Overlay.WF.onSurface _

end Editor

/-- **What a finished pass leaves.** The overlay shows on each line of the document the first of the
merged annotations for the line, and the report lists these by line. The same report and the same
annotations come out if the results are shown in an editor that others have changed elsewhere. -/
theorem runPass_shows_first (t : Testimony) (validator ansible yamllint : String) (hasModel : Bool)
    (policy : Policy) (keywords : List String) (a : Assignment) {e e' : Editor} {id : OverlayId}
    (hid : id < e.overlays.length) {report : PassReport} {n : Nat}
    (h : runPass t.collaborators
        ⟨validator, [.ansible ansible, .yaml yamllint], hasModel, policy, keywords⟩ a id e 0 =
      (.done report, e', n)) :
    let d := (e.surfaceOf id).document
    let errors := (t.outcome a).errors
    ∃ entries syntaxFinding reports,
      d.Located errors (t.advice hasModel policy errors d a.context).suggestions entries ∧
      Yaml.check d.joinedText = .ok syntaxFinding ∧
      t.lint (.ansible ansible) (.yaml yamllint) keywords a = .ok reports ∧
      (∀ l, (e'.overlay id).annotations.get? l =
        if 1 ≤ l ∧ l ≤ d.lineCount then
          (merged entries syntaxFinding reports).find? (·.line = l)
        else none) ∧
      report.annotations.Pairwise (·.line < ·.line) ∧
      (∀ x, x ∈ report.annotations ↔ (e'.overlay id).annotations.get? x.line = some x) ∧
      (e'.overlay id).handles.keys = (e'.overlay id).annotations.keys ∧
      ∀ later, e.Awaits id later →
        (later.conclude id a (.done report.evidence)).1 = .done report ∧
          ((later.conclude id a (.done report.evidence)).2.overlay id).annotations =
            (e'.overlay id).annotations := by
  have hbegun := Editor.awaits_beginPass hid
  obtain ⟨evidence, hrun, rfl, rfl⟩ := runPass_done.1 h
  have hdoc : ((e.beginPass id).surfaceOf id).document = (e.surfaceOf id).document :=
    congrArg Document.mk hbegun.lines
  unfold Crew.work at hrun
  rw [hdoc] at hrun
  have hsupport := Testimony.gather_done rfl hrun
  have hwf := Editor.wf_publish hbegun evidence
  refine ⟨evidence.schema, evidence.syntaxFinding, evidence.lint, hsupport.schema,
    hsupport.syntaxFinding, hsupport.lint, Editor.get?_publish hbegun evidence, hwf.sorted_lt,
    hwf.mem_sorted, hwf.handles, ?_⟩
  intro later hlater
  have hsame : ((later.publish id evidence).overlay id).annotations =
      (((e.beginPass id).publish id evidence).overlay id).annotations := by
    apply Editor.annotations_annotateAll_congr hlater.inUse hbegun.inUse
    · rw [hlater.overlay, hbegun.overlay]
    · rw [hlater.lines, hbegun.lines]
  refine ⟨?_, hsame⟩
  simp only [Editor.conclude, Editor.reportOn, Overlay.sorted, hsame]

/-- A pass over two lines of which the first is also a syntax error, after an overlay with a stale
annotation on the second. -/
theorem runPass_shows_first_two_lines :
    let t : Testimony :=
      ⟨.ok ⟨[], 1, "Validation failed!\na.b: bad\nc.d: worse", ""⟩, .ok ⟨[], 0, "", ""⟩,
        .error ⟨"yamllint", "gone"⟩, fun _ => .silence⟩
    let a : Assignment := ⟨.ofText "v.yml", some (.ofText "s.yml"), ⟨none, none, none, none⟩, none⟩
    let e : Editor :=
      ⟨[.ofLines ["a:\x01", "c:"]], [⟨0, [(2, ⟨2, "stale", ""⟩)], [(2, ⟨0, 0, true⟩)]⟩], [], 1⟩
    0 < e.overlays.length ∧ ∃ report e' n,
      runPass t.collaborators
          ⟨"yamale", [.ansible "ansible-lint", .yaml "yamllint"], false, .reject, []⟩ a 0 e 0 =
        (.done report, e', n) ∧
      (t.outcome a).errors = ["a.b: bad", "c.d: worse"] ∧
      ∃ entries syntaxFinding reports, entries.length = 2 ∧
        (∀ l, (e'.overlay 0).annotations.get? l =
          if 1 ≤ l ∧ l ≤ 2 then (merged entries syntaxFinding reports).find? (·.line = l)
          else none) ∧
        report.annotations.Pairwise (·.line < ·.line) := by
  intro t a e
  have hid : 0 < e.overlays.length := by decide
  obtain ⟨⟨ending, e', n⟩, h⟩ : ∃ result, runPass t.collaborators
      ⟨"yamale", [.ansible "ansible-lint", .yaml "yamllint"], false, .reject, []⟩ a 0 e 0 =
        result := ⟨_, rfl⟩
  have hdone : (runPass t.collaborators
      ⟨"yamale", [.ansible "ansible-lint", .yaml "yamllint"], false, .reject, []⟩ a 0 e
        0).1.isDone = true := by decide +kernel
  rw [h] at hdone
  obtain ⟨report, rfl⟩ := (Ending.isDone_iff _).1 hdone
  have herrors : (t.outcome a).errors = ["a.b: bad", "c.d: worse"] := by decide +kernel
  obtain ⟨entries, syntaxFinding, reports, hentries, -, -, hshown, hsorted, -⟩ :=
    runPass_shows_first t _ _ _ _ _ _ a hid h
  have hlength : entries.length = 2 := hentries.length.trans (by rw [herrors]; rfl)
  exact ⟨hid, report, e', n, h, herrors, entries, syntaxFinding, reports, hlength, hshown, hsorted⟩

end VarsAdvisor

import VarsAdvisor.Proofs.Floor.OwnOverlays
import VarsAdvisor.Proofs.Pass.Merge
import VarsAdvisor.Proofs.Pass.Yields
import VarsAdvisor.Proofs.Yaml.Lines

/-!
# Where syntax findings are shown

A finding about the syntax of a document is on one of its lines (`Yaml.line_of_check`). So a pass
that is done shows its finding there, unless an error of the schema has the line
(`Editor.showsSyntax_annotateAll`). This holds of a pass that is run by itself, and of passes side
by side if those that fill one overlay are over one document: the pass has cleared the overlay, no
other one is at work on it (`soleWriterAlong_of_ownDocuments`), and what the pass reports in the end
is what its work could come to from the beginning on (`finds_moves`).
-/

namespace VarsAdvisor

open VarsAdvisor.Text

variable {σ : Type} {c : Collaborators σ} {crew : Crew}

/-! ## One overlay -/

/-- The evidence has the syntax finding of the document. The overlay shows it on its line, unless it
shows an error of the schema there. -/
structure Editor.ShowsSyntax (e : Editor) (id : OverlayId) (d : Document) (evidence : Evidence) :
    Prop where
  check : Yaml.check d.joinedText = .ok evidence.syntaxFinding
  shown : ∀ found, evidence.syntaxFinding = some found →
    (e.overlay id).annotations.get? found.line = some found.annotation ∨
      ∃ entry ∈ evidence.schema, entry.line = found.line ∧
        (e.overlay id).annotations.get? found.line = some entry.annotation

/-- A line's first annotation is that of a schema error, or else of the syntax finding. -/
theorem Evidence.find?_annotations {evidence : Evidence} {found : Finding}
    (hfound : evidence.syntaxFinding = some found) :
    evidence.annotations.find? (·.line = (found.line : Int)) = some found.annotation ∨
      ∃ entry ∈ evidence.schema, entry.line = found.line ∧
        evidence.annotations.find? (·.line = (found.line : Int)) = some entry.annotation := by
  unfold annotations
  rw [hfound, List.append_assoc, List.find?_append]
  cases hschema : (evidence.schema.map SchemaAnnotation.annotation).find?
      (·.line = (found.line : Int)) with
  | none =>
    left
    simp [Finding.annotation]
  | some x =>
    right
    obtain ⟨entry, hentry, rfl⟩ := List.mem_map.1 (List.mem_of_find?_eq_some hschema)
    have hline := List.find?_some hschema
    rw [decide_eq_true_iff] at hline
    exact ⟨entry, hentry, Int.ofNat_inj.1 hline, rfl⟩

/-- A blank overlay that is filled with evidence about its text shows the syntax finding. -/
theorem Editor.showsSyntax_annotateAll {e : Editor} {id : OverlayId} (hid : id < e.overlays.length)
    (hblank : (e.overlay id).annotations = []) {text : String}
    (htext : (e.surfaceOf id).lines = lines text) {evidence : Evidence}
    (hcheck : Yaml.check (Document.ofText text).joinedText = .ok evidence.syntaxFinding) :
    (e.annotateAll id evidence.annotations).ShowsSyntax id (.ofText text) evidence := by
  refine ⟨hcheck, fun found hfound => ?_⟩
  rw [hfound] at hcheck
  obtain ⟨hfirst, hlast⟩ := Yaml.line_of_check (fun _ => isLine_of_mem_lines) hcheck
  have hhas : (e.surfaceOf id).hasLine found.line = true := by
    simp only [Surface.hasLine, Surface.lineCount, htext, Bool.and_eq_true, decide_eq_true_eq]
    exact ⟨Int.ofNat_le.2 hfirst, Int.ofNat_le.2 hlast⟩
  rw [get?_annotateAll hid, hblank, if_pos hhas]
  exact Evidence.find?_annotations hfound

/-- A pass that is done shows its syntax finding. -/
theorem runPass_showsSyntax {a : Assignment} {e e' : Editor} {id : OverlayId} {s s' : σ}
    {report : PassReport} {text : String} (hid : id < e.overlays.length)
    (htext : (e.surfaceOf id).lines = lines text)
    (h : runPass c crew a id e s = (.done report, e', s')) :
    e'.ShowsSyntax id (.ofText text) report.evidence := by
  obtain ⟨evidence, hrun, rfl, rfl⟩ := runPass_done.1 h
  have hbegun := Editor.awaits_beginPass hid
  have hlines : ((e.beginPass id).surfaceOf id).lines = lines text := hbegun.lines.trans htext
  have hcheck := (crew.yields_gather a _).run hrun
  rw [Surface.document, hlines] at hcheck
  exact Editor.showsSyntax_annotateAll hbegun.inUse (by rw [hbegun.overlay]; rfl) hlines hcheck

/-! ## What passes side by side come to -/

/-- The evidence of a pass has the property, or all that its work can still come to. -/
inductive Stage.Yields (p : Evidence → Prop) : Stage → Prop
  | inLine (lock : LockId) : Yields p (.inLine lock)
  | working (lock : LockId) {rest : Script Evidence} (h : rest.Yields p) :
      Yields p (.working lock rest)
  | stuck (lock : LockId) {request : Script Evidence} (h : request.Yields p) :
      Yields p (.stuck lock request)
  | done {report : PassReport} (h : p report.evidence) : Yields p (.ended (.done report))
  | failed (f : Fault) : Yields p (.ended (.failed f))
  | cancelled : Yields p (.ended .cancelled)

namespace Floor

variable {f f' : Floor σ} {p : Job → Evidence → Prop} {pass : Nat} {job : Job} {stage : Stage}

/-- The evidence of all passes, now or later, has the property that goes with their jobs. -/
def Finds (f : Floor σ) (p : Job → Evidence → Prop) : Prop :=
  ∀ ⦃pass : Nat⦄ ⦃job : Job⦄ ⦃stage : Stage⦄,
    f.jobs[pass]? = some (job, stage) → stage.Yields (p job)

namespace Finds

theorem setStage (hf : f.Finds p) (hat : f.jobs[pass]? = some (job, stage)) {later : Stage}
    (h : later.Yields (p job)) : (f.setStage pass later).Finds p := by
  intro other job' stage' hat'
  by_cases hne : other = pass
  · subst hne
    rw [getElem?_setStage_self hat] at hat'
    cases hat'
    exact h
  · rw [getElem?_setStage_ne hne] at hat'
    exact hf hat'

/-- A pass that comes to something that it could come to leaves it so. -/
theorem proceed (hf : f.Finds p) (hat : f.jobs[pass]? = some (job, stage)) (lock : LockId)
    {progress : Progress Evidence} (h : progress.Yields (p job)) :
    (f.proceed pass job lock progress).Finds p := by
  have hfinish : ∀ ending : Ending Evidence,
      (Stage.ended (f.editor.conclude job.overlay job.assignment ending).1).Yields (p job) →
        (f.finish pass job lock ending).Finds p := by
    intro ending hending
    have hsame : ({ f with
        editor := (f.editor.conclude job.overlay job.assignment ending).2
        locks := f.locks.leave job.key lock pass } : Floor σ).Finds p := hf
    exact hsame.setStage hat hending
  cases h with
  | more h => exact hf.setStage hat (.working lock h)
  | stuck h => exact hf.setStage hat (.stuck lock h)
  | done h => exact hfinish _ (.done h)
  | failed e => exact hfinish _ (.failed e)
  | cancelled => exact hfinish _ .cancelled

theorem start (hf : f.Finds p) (job : Job) : (f.start job).Finds p := by
  intro pass job' stage hat
  obtain hold | ⟨-, -, rfl⟩ := getElem?_start hat
  · exact hf hold
  · exact .inLine _

/-- A move keeps it so if all that a pass can come to when it begins now has the property. -/
theorem move (hf : f.Finds p)
    (hbegin : ∀ job : Job, (crew.work job.assignment (f.editor.beginPass job.overlay)
      job.overlay).Yields (p job))
    (c : Collaborators σ) (m : Move) : (f.move c crew m).Finds p := by
  have houtside : ∀ s : σ, ({ f with outside := s } : Floor σ).Finds p := fun _ => hf
  cases m with
  | start job => exact hf.start job
  | advance pass =>
    unfold Floor.move advance
    dsimp only
    split
    · next job lock hat =>
      unfold takeUp
      split
      · have hsame : ({ f with editor := f.editor.beginPass job.overlay } : Floor σ).Finds p := hf
        exact hsame.setStage hat (.working lock (hbegin job))
      · exact hf
    · next job lock script hat =>
      cases hf hat with
      | working _ h =>
        exact (houtside (script.step c f.outside).2).proceed hat lock (h.step c f.outside)
    · exact hf
  | cancel pass =>
    unfold Floor.move cancel
    dsimp only
    split
    · next job lock hat => exact hf.proceed hat lock .cancelled
    · next job lock script hat =>
      cases hf hat with
      | working _ h => exact hf.proceed hat lock h.interrupt
    · next job lock script hat =>
      cases hf hat with
      | stuck _ h => exact hf.proceed hat lock h.interrupt
    · exact hf

end Finds

/-! ## Overlays in use -/

theorem length_overlays_moves (c : Collaborators σ) (crew : Crew) (f : Floor σ) (ms : List Move) :
    (f.moves c crew ms).editor.overlays.length = f.editor.overlays.length := by
  induction ms generalizing f with
  | nil => rfl
  | cons m ms ih => exact (ih _).trans (happens_move c crew f m).length_overlays

/-- Passes leave the lines alone that an overlay is about. -/
theorem lines_surfaceOf_moves (c : Collaborators σ) (crew : Crew) (f : Floor σ) (ms : List Move)
    (id : OverlayId) :
    ((f.moves c crew ms).editor.surfaceOf id).lines = (f.editor.surfaceOf id).lines := by
  induction ms generalizing f with
  | nil => rfl
  | cons m ms ih =>
    exact (ih _).trans (Editor.lines_of_bare ((happens_move c crew f m).bare_surfaceOf id))

/-- Whatever happens, a pass with an overlay that was in use at first finds the syntax finding of
the document that the overlay is about. -/
theorem finds_moves (c : Collaborators σ) (crew : Crew) (e : Editor) (s : σ) (ms : List Move) :
    ((begin e s).moves c crew ms).Finds fun job evidence => job.overlay < e.overlays.length →
      Yaml.check (e.surfaceOf job.overlay).document.joinedText = .ok evidence.syntaxFinding := by
  induction ms using List.reverseRecOn with
  | nil =>
    intro pass job stage hat
    cases hat
  | append_singleton ms m ih =>
    rw [moves_concat]
    refine ih.move (fun job => ?_) c m
    by_cases hid : job.overlay < e.overlays.length
    · have hnow : job.overlay < ((begin e s).moves c crew ms).editor.overlays.length := by
        rwa [length_overlays_moves]
      have hlines :=
        (Editor.awaits_beginPass hnow).lines.trans (lines_surfaceOf_moves c crew _ ms job.overlay)
      refine (crew.yields_gather job.assignment _).mono fun evidence hcheck _ => ?_
      rw [Surface.document, hlines] at hcheck
      exact hcheck
    · exact (Script.Yields.any _).mono fun _ _ hother => absurd hother hid

/-- Passes on one overlay are over one document. -/
def OwnDocuments (f : Floor σ) : Prop :=
  ∀ ⦃pass other : Nat⦄ ⦃job job' : Job⦄ ⦃stage stage' : Stage⦄,
    f.jobs[pass]? = some (job, stage) → f.jobs[other]? = some (job', stage') →
      job'.overlay = job.overlay → job'.key = job.key

/-- As passes over one document take turns, no two passes are at work on one overlay. -/
theorem soleWriterAlong_of_ownDocuments {e : Editor} {s : σ} {ms : List Move}
    (h : ((begin e s).moves c crew ms).OwnDocuments) (pass : Nat) :
    SoleWriterAlong c crew (begin e s) ms pass := by
  rintro before ⟨after, rfl⟩ job job' stage stage' other hat hinside hat' hinside' hsame
  have horder : ((begin e s).moves c crew before).Orderly := (Orderly.begin e s).moves c crew before
  obtain ⟨later, hlater, -⟩ := moves_keeps c crew after hat
  obtain ⟨later', hlater', -⟩ := moves_keeps c crew after hat'
  rw [← moves_append] at hlater hlater'
  exact horder.inside_unique hat' hat hinside' hinside (h hlater hlater' hsame)

/-- When a pass becomes done, its overlay shows the syntax finding. -/
theorem showsSyntax_of_done {e : Editor} {s : σ} {ms : List Move} {m : Move} {report : PassReport}
    {text : String} (hid : job.overlay < e.overlays.length)
    (htext : (e.surfaceOf job.overlay).lines = lines text)
    (hown : ((begin e s).moves c crew ms).OwnDocuments)
    (halive : ((begin e s).moves c crew ms).ending? pass = none)
    (hdone : (((begin e s).moves c crew ms).move c crew m).jobs[pass]? =
      some (job, .ended (.done report))) :
    (((begin e s).moves c crew ms).move c crew m).editor.ShowsSyntax job.overlay (.ofText text)
      report.evidence := by
  have hstep := happens_move c crew ((begin e s).moves c crew ms) m
  obtain ⟨stage, hat⟩ : ∃ stage, ((begin e s).moves c crew ms).jobs[pass]? = some (job, stage) := by
    generalize hending : Ending.done report = ending at hdone
    cases hstep.arrives hdone with
    | stays hold => exact ⟨_, hold⟩
    | goesOn hold hscript hscript' => exact ⟨_, hold⟩
    | ends hold => exact ⟨_, hold⟩
  have hlock : stage.lock? ≠ none := lock?_ne_none hat halive
  obtain ⟨hinside, evidence, heditor, hreport⟩ := hstep.becomes_done hat hlock hdone
  have hsame : report.evidence = evidence := by rw [hreport]; rfl
  have hblank : (((begin e s).moves c crew ms).editor.overlay job.overlay).annotations = [] :=
    (hasBlank_moves e s (soleWriterAlong_of_ownDocuments hown pass) hat hinside).1
  have hlines : (((begin e s).moves c crew ms).editor.surfaceOf job.overlay).lines = lines text :=
    (lines_surfaceOf_moves c crew _ ms _).trans htext
  have hcheck : Yaml.check (Document.ofText text).joinedText = .ok evidence.syntaxFinding := by
    have hfinds := finds_moves c crew e s (ms ++ [m])
    rw [moves_concat] at hfinds
    cases hfinds hdone with
    | done h =>
      have hfound := h hid
      rw [Surface.document, htext, hsame] at hfound
      exact hfound
  rw [heditor, hsame]
  exact Editor.showsSyntax_annotateAll (by rwa [length_overlays_moves]) hblank hlines hcheck

end Floor

/-- **A syntax finding has a line.** The finding about the lines of a text is on one of them, and
about no lines there is none. So a pass over a surface that shows the text reports this finding when
it is done, and the overlay then shows it, unless an error of the schema has its line. This holds of
a pass that is run by itself, and of any pass among others at the moment at which it becomes done,
as long as no overlay is used for two documents. -/
theorem syntaxFinding_has_a_line (c : Collaborators σ) (crew : Crew) (text : String) :
    let d := Document.ofText text
    (∀ found, Yaml.check d.joinedText = .ok (some found) →
      1 ≤ found.line ∧ found.line ≤ d.lineCount) ∧
    (d.lineCount = 0 → Yaml.check d.joinedText = .ok none) ∧
    (∀ (a : Assignment) (e e' : Editor) (id : OverlayId) (s s' : σ) (report : PassReport),
      id < e.overlays.length → (e.surfaceOf id).lines = Text.lines text →
        runPass c crew a id e s = (.done report, e', s') →
          e'.ShowsSyntax id d report.evidence) ∧
    ∀ (e : Editor) (s : σ) (ms : List Move) (m : Move) (pass : Nat) (job : Job)
      (report : PassReport),
      let f := (Floor.begin e s).moves c crew ms
      let f' := f.move c crew m
      job.overlay < e.overlays.length → (e.surfaceOf job.overlay).lines = Text.lines text →
        f.OwnDocuments → f.ending? pass = none →
          f'.jobs[pass]? = some (job, .ended (.done report)) →
            f'.editor.ShowsSyntax job.overlay d report.evidence := by
  intro d
  refine ⟨?_, ?_, ?_, ?_⟩
  · intro found hcheck
    exact Yaml.line_of_check (fun _ => isLine_of_mem_lines) hcheck
  · intro hnone
    exact Yaml.check_of_no_lines (List.length_eq_zero_iff.1 hnone)
  · intro a e e' id s s' report hid htext hrun
    exact runPass_showsSyntax hid htext hrun
  · intro e s ms m pass job report f f' hid htext hown halive hdone
    exact Floor.showsSyntax_of_done hid htext hown halive hdone

/-- A list that is never closed is a problem behind the last line break. The finding about it is
shown beside a schema error on the first line, by a pass that is run by itself and by the first of
two. -/
theorem syntaxFinding_has_a_line_last :
    let t : Testimony :=
      ⟨.ok ⟨[], 1, "Validation failed!\na.b: bad", ""⟩, .ok ⟨[], 0, "", ""⟩, .ok ⟨[], 0, "", ""⟩,
        fun _ => .silence⟩
    let crew : Crew := ⟨"yamale", [.yaml "yamllint"], false, .reject, []⟩
    let a : Assignment := ⟨.ofText "v.yml", some (.ofText "s.yml"), ⟨none, none, none, none⟩, none⟩
    let d : Document := .ofText "a: [\n\n"
    let e : Editor := ⟨[.ofLines ["a: [", ""]], [.onSurface 0], [], 0⟩
    let job : Job := ⟨⟨"/", ["ws"]⟩, a, 0⟩
    let f := (Floor.begin e 0).moves t.collaborators crew
      [.start job, .start job, .advance 0, .advance 0, .advance 0]
    (∃ found, Yaml.check d.joinedText = .ok (some found) ∧ found.line = 2 ∧
        found.line ≤ d.lineCount) ∧
      Yaml.check (Document.ofText "").joinedText = .ok none ∧
      (∃ report e' n, runPass t.collaborators crew a 0 e 0 = (.done report, e', n) ∧
        e'.ShowsSyntax 0 d report.evidence) ∧
      ∃ report, f.ending? 0 = none ∧
        (f.move t.collaborators crew (.advance 0)).ending? 0 = some (.done report) ∧
        (f.move t.collaborators crew (.advance 0)).editor.ShowsSyntax 0 d report.evidence := by
  intro t crew a d e job f
  have hid : 0 < e.overlays.length := by decide
  have htext : (e.surfaceOf 0).lines = Text.lines "a: [\n\n" := by decide
  obtain ⟨hfirst, -, hpass, hfloor⟩ := syntaxFinding_has_a_line t.collaborators crew "a: [\n\n"
  refine ⟨?_, ?_, ?_, ?_⟩
  · have hline : (Yaml.check d.joinedText).toOption.map (·.map (·.line)) = some (some 2) := by
      decide +kernel
    obtain ⟨result, hresult, hfound⟩ := Option.map_eq_some_iff.1 hline
    obtain ⟨found, rfl, htwo⟩ := Option.map_eq_some_iff.1 hfound
    have hcheck := except_toOption_some.1 hresult
    exact ⟨found, hcheck, htwo, (hfirst found hcheck).2⟩
  · exact (syntaxFinding_has_a_line t.collaborators crew "").2.1 rfl
  · obtain ⟨⟨ending, e', n⟩, hrun⟩ : ∃ result, runPass t.collaborators crew a 0 e 0 = result :=
      ⟨_, rfl⟩
    have hdone : (runPass t.collaborators crew a 0 e 0).1.isDone = true := by decide +kernel
    rw [hrun] at hdone
    obtain ⟨report, rfl⟩ := (Ending.isDone_iff _).1 hdone
    exact ⟨report, e', n, hrun, hpass a e e' 0 0 n report hid htext hrun⟩
  · have halive : (f.ending? 0).isNone = true := by decide +kernel
    have hkeys : ∀ key ∈ f.jobs.map (·.1.key), key = "/ws/v.yml" := by decide +kernel
    have hdone : ((f.move t.collaborators crew (.advance 0)).ending? 0).any (·.isDone) = true := by
      decide +kernel
    have hoverlays : ∀ id ∈ (f.move t.collaborators crew (.advance 0)).jobs.map (·.1.overlay),
        id = 0 := by
      decide +kernel
    have hshows : ∀ (job : Job) (report : PassReport), job.overlay < e.overlays.length →
        (e.surfaceOf job.overlay).lines = Text.lines "a: [\n\n" → f.OwnDocuments →
          f.ending? 0 = none → (f.move t.collaborators crew (.advance 0)).jobs[0]? =
            some (job, .ended (.done report)) →
              (f.move t.collaborators crew (.advance 0)).editor.ShowsSyntax job.overlay d
                report.evidence :=
      hfloor e 0 [.start job, .start job, .advance 0, .advance 0, .advance 0] (.advance 0) 0
    clear_value f
    have hkey : ∀ {pass : Nat} {job : Job} {stage : Stage},
        f.jobs[pass]? = some (job, stage) → job.key = "/ws/v.yml" := by
      intro pass job stage hat
      have hmem : (job, stage) ∈ f.jobs := List.mem_of_getElem? hat
      exact hkeys job.key (List.mem_map.2 ⟨(job, stage), hmem, rfl⟩)
    have hown : f.OwnDocuments := by
      intro pass other job job' stage stage' hat hat' _
      have hplace : job.key = "/ws/v.yml" := hkey hat
      exact (hkey hat').trans hplace.symm
    obtain ⟨ending, hending, hreport⟩ := (Option.any_eq_true _ _).1 hdone
    obtain ⟨report, rfl⟩ := (Ending.isDone_iff _).1 hreport
    obtain ⟨job', hat⟩ := Floor.exists_of_ending? hending
    have hoverlay : job'.overlay = 0 :=
      hoverlays _ (List.mem_map_of_mem (List.mem_of_getElem? hat))
    have hshown := hshows job' report (hoverlay ▸ hid) (hoverlay ▸ htext) hown
      (Option.isNone_iff_eq_none.1 halive) hat
    rw [hoverlay] at hshown
    exact ⟨report, Option.isNone_iff_eq_none.1 halive, hending, hshown⟩

end VarsAdvisor

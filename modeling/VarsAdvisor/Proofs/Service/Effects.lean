import VarsAdvisor.Proofs.Pass.Script
import VarsAdvisor.Proofs.Pass.Work
import VarsAdvisor.Proofs.Service.Admission
import VarsAdvisor.Proofs.Service.Sending

/-!
# What requests do to open documents

A validation that passes its checks puts its document on a new surface, and annotates it there only
if it is answered with a report (`Service.Passed.leaves`). All that any request does to open
documents are actions of an editor (`Service.Handled.editor`).
-/

namespace VarsAdvisor

variable {σ : Type}

/-! ## Statuses -/

theorem status_respond (r : Request) (answer : Answer) :
    (r.respond answer).status = answer.response.status := by
  unfold Request.respond Response.toMethod
  split <;> rfl

theorem status_breakdown (r : Request) (b : Breakdown) :
    (r.respond (.rejected (.breakdown b))).status = 500 :=
  status_respond r _

/-- Nothing but a rejection is answered with another status than 200, unless the answer cannot be
sent. -/
theorem status_of_not_rejected (r : Request) {answer : Answer} (h : ∀ x, answer ≠ .rejected x) :
    (r.respond answer).status = 200 ∨ (r.respond answer).status = 500 := by
  rw [status_respond]
  cases answer with
  | rejected x => exact absurd rfl (h x)
  | _ =>
    unfold Answer.response
    rw [Response.status_ofJson]
    exact ite_eq_or_eq _ _ _

theorem status_reason_ne {status : Nat} (h : status ≠ 200) (detail : Json) :
    (Response.reason status detail).status ≠ 200 := by
  unfold Response.reason
  rw [Response.status_ofJson]
  split
  · exact h
  · exact (by decide : 500 ≠ 200)

theorem status_rejected_ne (r : Request) (x : Rejection) :
    (r.respond (.rejected x)).status ≠ 200 := by
  rw [status_respond]
  cases x with
  | stray stray =>
    cases stray with
    | slashed => exact (by decide : 307 ≠ 200)
    | _ => exact status_reason_ne (by decide) _
  | unread u => cases u <;> exact status_reason_ne (by decide) _
  | breakdown b => exact (by decide : 500 ≠ 200)
  | _ => exact status_reason_ne (by decide) _

/-! ## Validations -/

theorem Settings.plain_crew (s : Settings) : ∀ l ∈ s.crew.linters, l.Plain := by
  simp [crew, Linter.plain_ansible, Linter.plain_yaml]

/-- A pass over an overlay without annotations annotates it only if the pass ends with a report. -/
theorem runPass_onSurface {c : Collaborators σ} {crew : Crew}
    (hlinters : ∀ l ∈ crew.linters, l.Plain) {a : Assignment} {id : OverlayId} {e e' : Editor}
    {s s' : σ} {ending : Ending PassReport} {j : SurfaceId} (hblank : e.overlay id = .onSurface j)
    (h : runPass c crew a id e s = (ending, e', s')) :
    ∃ as, e' = e.annotateAll id as ∧
      ((∃ report, ending = .done report ∧ report.annotations = (e'.overlay id).sorted ∧
          as = report.evidence.annotations ∧ report.evidence.Worded) ∨
        as = [] ∧ ending.isDone = false) := by
  obtain ⟨⟨worked, s''⟩, hrun⟩ : ∃ result,
      (crew.work a (e.beginPass id) id).run c s = result := ⟨_, rfl⟩
  have hwords := crew.worded_gather hlinters a ((e.beginPass id).surfaceOf id).document
  -- A pass clears the overlay first, which has nothing on it here.
  have hbegin : e.beginPass id = e := Editor.clear_onSurface hblank
  rw [runPass_of_run hrun] at h
  cases worked with
  | done evidence =>
    have hworded : evidence.Worded := hwords.run hrun
    rw [hbegin] at h
    cases h
    exact ⟨evidence.annotations, rfl, .inl ⟨_, rfl, rfl, rfl, hworded⟩⟩
  | failed f =>
    rw [hbegin] at h
    cases h
    exact ⟨[], rfl, .inr ⟨rfl, rfl⟩⟩
  | cancelled =>
    rw [hbegin] at h
    cases h
    exact ⟨[], rfl, .inr ⟨rfl, rfl⟩⟩

/-- What is annotated on an overlay without annotations is what was offered. -/
theorem Editor.mem_sorted_annotateAll {e : Editor} {id : OverlayId} {j : SurfaceId}
    (hblank : e.overlay id = .onSurface j) (hid : id < e.overlays.length) (as : List Annotation) :
    ∀ a ∈ ((e.annotateAll id as).overlay id).sorted, a ∈ as := by
  intro a ha
  obtain ⟨more, hmore, hfrom⟩ := exists_annotations_annotateAll hid as
  unfold Overlay.sorted at ha
  rw [List.mem_mergeSort, hmore, hblank] at ha
  obtain ⟨p, hp, rfl⟩ := List.mem_map.1 ha
  exact hfrom p hp

namespace Service

variable {o : Outside σ} {s : Service σ} {r : Request} {v : Validation} {c : Cleared}
  {result : Option Answer × Service σ}

/-- What is told about a validation that passed its checks: a report on the annotations that are
shown, or, if there are none, that something broke off, or nothing. -/
inductive Tells (e : Editor) (id : OverlayId) (as : List Annotation) : Option Answer → Prop
  | report {report : PassReport} (h : report.annotations = (e.overlay id).sorted)
      (has : as = report.evidence.annotations) (hworded : report.evidence.Worded) :
      Tells e id as (some (.validated report (e.surfaceOf id).shown))
  | breakdown (h : as = []) (b : Breakdown) : Tells e id as (some (.rejected (.breakdown b)))
  | nothing (h : as = []) : Tells e id as none

/-- A validation that passes its checks leaves its document on a new surface, and tells what is
shown there. -/
theorem Passed.leaves (h : Passed o s v c result) (he : s.desk.editor.Registered) :
    ∃ as, let opened := s.desk.editor.present c.document.text c.lines
      result.2.desk = ⟨s.desk.tree, opened.1.annotateAll opened.2 as⟩ ∧
        Tells (opened.1.annotateAll opened.2 as) opened.2 as result.1 := by
  have hopen := (he.alone_present c.document.text c.lines).isOpen
  cases h with
  | noPlace b => exact ⟨[], rfl, .breakdown rfl b⟩
  | @ran source t ending e connection outside hlaid hrun =>
    obtain ⟨as, rfl, ⟨report, rfl, hreport, has, hworded⟩ | ⟨hnone, hending⟩⟩ :=
      runPass_onSurface s.settings.plain_crew
        (he.placed.overlay_present c.document.text c.lines) hrun
    · refine ⟨as, rfl, ?_⟩
      dsimp only [Desk.answerTo, Desk.markersOf, Desk.jobOn]
      rw [Editor.overlayOf?_annotateAll, hopen]
      exact .report hreport has hworded
    · refine ⟨as, rfl, ?_⟩
      cases ending with
      | done report => cases hending
      | failed f => exact .breakdown hnone _
      | cancelled => exact .nothing hnone

/-- The actions of a validation on its document. -/
theorem Passed.editor (h : Passed o s v c result) (he : s.desk.editor.Registered) :
    ∃ actions, result.2.desk.editor = s.desk.editor.run actions ∧
      ∀ other, other ≠ c.document.text → ∀ action ∈ actions, action.document? ≠ some other := by
  obtain ⟨as, hdesk, -⟩ := h.leaves he
  have hopen := (he.alone_present c.document.text c.lines).isOpen
  refine ⟨[.addSurface c.lines, .openDocument c.document.text s.desk.editor.surfaces.length] ++
    as.map (.annotate c.document.text), ?_, ?_⟩
  · rw [hdesk, Editor.annotateAll_eq_run hopen, Editor.present_eq_run]
    exact List.foldl_append.symm
  · intro other hne
    rw [List.forall_mem_append, List.forall_mem_map]
    simpa [Editor.Action.document?] using ⟨Ne.symm hne, fun _ _ => Ne.symm hne⟩

/-- A report on a document and its markers are what is in view: annotations of what was found, each
with its marker on the document's surface, which has the lines that were checked. -/
structure Shows (e : Editor) (document : String) (lines : List String) (report : PassReport)
    (markers : List Marker) : Prop where
  view : e.view? document = some (report.annotations, markers)
  sorted : report.annotations.Pairwise (·.line < ·.line)
  marked : ∃ surface : Surface, surface.lines = lines ∧
    (∀ a ∈ report.annotations, surface.hasLine a.line = true) ∧
    markers = report.annotations.map (Editor.markerFor surface)
  found : ∀ a ∈ report.annotations, a ∈ report.evidence.annotations
  worded : report.evidence.Worded

/-- A validation that is answered with a report shows it. -/
theorem Passed.shows {report : PassReport} {markers : List Marker} (h : Passed o s v c result)
    (he : s.desk.editor.Registered) (hanswer : result.1 = some (.validated report markers)) :
    Shows result.2.desk.editor c.document.text c.lines report markers := by
  obtain ⟨as, hdesk, htells⟩ := h.leaves he
  let opened := s.desk.editor.present c.document.text c.lines
  let e := opened.1.annotateAll opened.2 as
  have hopened := he.alone_present c.document.text c.lines
  have halone : e.Alone c.document.text opened.2 := hopened.annotateAll as
  have hregistered : e.Registered := (he.present _ _).annotateAll hopened.isOpen as
  have hblank := he.placed.overlay_present c.document.text c.lines
  have hsurface : (e.surfaceOf opened.2).bare = .ofLines c.lines := by
    unfold Editor.surfaceOf
    rw [Editor.bare_annotateAll, Editor.surface_annotateAll]
    exact he.placed.surfaceOf_present c.document.text c.lines
  have hwf := hregistered.balanced.tidy.wf opened.2
  rw [hanswer] at htells
  cases htells with
  | report hreport has hworded =>
    subst has
    rw [hdesk]
    refine ⟨?_, ?_, ⟨e.surfaceOf opened.2, congrArg Surface.lines hsurface, ?_, ?_⟩, ?_, hworded⟩
    · rw [hreport]
      exact Editor.view?_of_overlayOf? halone.isOpen
    · rw [hreport]
      exact hwf.sorted_lt
    · rw [hreport]
      intro a ha
      exact hregistered.balanced.line ((hwf.mem_sorted a).1 ha)
    · rw [hreport]
      exact halone.shown hregistered
    · rw [hreport]
      exact Editor.mem_sorted_annotateAll hblank ((he.present _ _).inUse hopened.isOpen) _

/-- A report is answered with status 200 exactly if its evidence is plain. -/
theorem Shows.status {e : Editor} {document : String} {lines : List String} {report : PassReport}
    {markers : List Marker} (h : Shows e document lines report markers) (r : Request) :
    (r.respond (.validated report markers)).status =
      if report.evidence.IsPlain then 200 else 500 := by
  obtain ⟨surface, -, -, rfl⟩ := h.marked
  rw [status_respond]
  exact Answer.status_validated h.worded h.found

/-- What has been sent once can be sent again. -/
theorem Shows.status_shown {e : Editor} {document : String} {lines : List String}
    {report : PassReport} {markers : List Marker} (h : Shows e document lines report markers)
    {r : Request} (hstatus : (r.respond (.validated report markers)).status = 200) (r' : Request) :
    (r'.respond (.shown document report.annotations markers)).status = 200 := by
  rw [h.status] at hstatus
  obtain ⟨surface, -, -, rfl⟩ := h.marked
  rw [status_respond]
  refine Answer.status_shown document surface fun a ha => ?_
  split at hstatus
  · next hplain => exact Evidence.isString_of_mem_annotations h.worded hplain (h.found a ha)
  · cases hstatus

/-- Whatever a request does to open documents are actions of an editor. -/
theorem Handled.editor (h : Handled o s r result) (he : s.desk.editor.Registered) :
    ∃ actions, result.2.desk.editor = s.desk.editor.run actions := by
  cases h with
  | turnedDown x => exact ⟨[], rfl⟩
  | passed hroute hbody hcheck hpassed =>
    obtain ⟨actions, hactions, -⟩ := hpassed.editor he
    exact ⟨actions, hactions⟩
  | shown hroute' document annotations markers => exact ⟨[], rfl⟩
  | @closed name p hroute hname hpath => exact ⟨[.closeDocument p.text], rfl⟩
  | health hroute reachable connection outside => exact ⟨[], rfl⟩
  | unhealthy hroute fault connection outside => exact ⟨[], rfl⟩

end Service

end VarsAdvisor

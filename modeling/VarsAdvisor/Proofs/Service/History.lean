import VarsAdvisor.Proofs.Service.Effects

/-!
# What stays in view

Requests come in one after the other, and files change in between. What a validation has reported
about a document is shown for every request that means the document, however it names it, until the
document is validated again or closed; a document that was closed is not shown until it is validated
again (`annotations_stay_in_view`). Nothing that is done with other documents changes this.
-/

namespace VarsAdvisor

namespace Service

variable {σ : Type} {o : Outside σ} {s : Service σ} {key : String}

/-! ## Histories -/

/-- Something that happens to a service: a request comes in, or files are changed. -/
inductive Event where
  | request (r : Request)
  | files (entries : Table (List String) Entry)
  deriving Repr

/-- The service after an event. -/
def happen (o : Outside σ) (s : Service σ) : Event → Service σ
  | .request r => (s.handle o r).2
  | .files entries => { s with desk := ⟨{ s.desk.tree with entries := entries }, s.desk.editor⟩ }

/-- The service after events, one after the other. -/
def history (o : Outside σ) (s : Service σ) (events : List Event) : Service σ :=
  events.foldl (happen o) s

/-- The event is a validation of the document that passes its checks. -/
def Opens (s : Service σ) (key : String) : Event → Prop
  | .request r => route r.method r.path = .ok .validate ∧
      ∃ v c, Validation.ofBody r.body = .ok v ∧ v.check s.settings s.desk.tree = .ok c ∧
        c.document.text = key
  | .files _ => False

/-- The event is a request to close the document. -/
def Closes (s : Service σ) (key : String) : Event → Prop
  | .request r => route r.method r.path = .ok .close ∧
      ∃ name p, r.document = .ok name ∧ s.settings.pathOf s.desk.tree name = .ok p ∧ p.text = key
  | .files _ => False

/-- Each event is as `p` says in the service to which it happens. -/
def Along (o : Outside σ) (p : Service σ → Event → Prop) : Service σ → List Event → Prop
  | _, [] => True
  | s, event :: rest => p s event ∧ Along o p (s.happen o event) rest

/-! ## One event -/

/-- Requests keep documents on surfaces of their own. -/
theorem Handled.apart {r : Request} {result : Option Answer × Service σ}
    (h : Handled o s r result) (he : s.desk.editor.Apart) : result.2.desk.editor.Apart := by
  cases h with
  | turnedDown x => exact he
  | passed hroute hbody hcheck hpassed =>
    obtain ⟨as, hdesk, -⟩ := hpassed.leaves he.registered
    rw [hdesk]
    exact (he.present _ _).annotateAll (he.registered.alone_present _ _).isOpen as
  | shown hroute' document annotations markers => exact he
  | closed hroute hname hpath => exact he.closeDocument _
  | health hroute reachable connection outside => exact he
  | unhealthy hroute fault connection outside => exact he

/-- A request does not change the view of a document that it neither opens nor closes. -/
theorem Handled.view? {r : Request} {result : Option Answer × Service σ}
    (h : Handled o s r result) (he : s.desk.editor.Apart) (hopens : ¬ s.Opens key (.request r))
    (hcloses : s.desk.editor.view? key = none ∨ ¬ s.Closes key (.request r)) :
    result.2.desk.editor.view? key = s.desk.editor.view? key := by
  have he' := h.apart he
  cases h with
  | turnedDown x => rfl
  | @passed v c _ hroute hbody hcheck hpassed =>
    obtain ⟨actions, hactions, hothers⟩ := hpassed.editor he.registered
    -- Everything that a validation does to open documents it does to its own.
    have hne : key ≠ c.document.text := by
      rintro rfl
      exact hopens ⟨hroute, v, c, hbody, hcheck, rfl⟩
    rw [hactions] at he' ⊢
    exact he.view?_run_other actions he' (hothers key hne)
  | shown hroute' document annotations markers => rfl
  | @closed name p hroute hname hpath =>
    by_cases hkey : p.text = key
    · subst hkey
      rcases hcloses with hnone | hcloses
      · rw [hnone]
        refine Editor.view?_eq_none ?_
        rw [Editor.overlayOf?_closeDocument, if_pos rfl]
      · exact absurd ⟨hroute, name, p, hname, hpath, rfl⟩ hcloses
    · exact he.view?_run_other [.closeDocument p.text] he'
        (by simpa [Editor.Action.document?] using hkey)
  | health hroute reachable connection outside => rfl
  | unhealthy hroute fault connection outside => rfl

theorem apart_happen (o : Outside σ) (he : s.desk.editor.Apart) (event : Event) :
    (s.happen o event).desk.editor.Apart := by
  cases event with
  | files entries => exact he
  | request r => exact (handled_handle o s r).apart he

theorem view?_happen (he : s.desk.editor.Apart) {event : Event} (hopens : ¬ s.Opens key event)
    (hcloses : s.desk.editor.view? key = none ∨ ¬ s.Closes key event) :
    (s.happen o event).desk.editor.view? key = s.desk.editor.view? key := by
  cases event with
  | files entries => rfl
  | request r => exact (handled_handle o s r).view? he hopens hcloses

/-! ## Histories of events -/

theorem apart_history (o : Outside σ) (he : s.desk.editor.Apart) (events : List Event) :
    (s.history o events).desk.editor.Apart := by
  induction events generalizing s with
  | nil => exact he
  | cons event rest ih => exact ih (apart_happen o he event)

/-- What events do to the open documents of a service that began without any are actions of an
editor. -/
theorem editor_history (o : Outside σ) (hs : s.desk.editor = .empty) (events : List Event) :
    ∃ actions, (s.history o events).desk.editor = Editor.empty.run actions := by
  induction events using List.reverseRecOn with
  | nil => exact ⟨[], hs⟩
  | append_singleton before event ih =>
    obtain ⟨actions, hactions⟩ := ih
    unfold history at hactions ⊢
    rw [List.foldl_append, List.foldl_cons, List.foldl_nil]
    cases event with
    | files entries => exact ⟨actions, hactions⟩
    | request r =>
      have he : (before.foldl (happen o) s).desk.editor.Registered :=
        hactions ▸ Editor.Registered.empty.run actions
      obtain ⟨further, hfurther⟩ := (handled_handle o (before.foldl (happen o) s) r).editor he
      refine ⟨actions ++ further, hfurther.trans ?_⟩
      rw [hactions]
      exact List.foldl_append.symm

/-- What is in view stays until the document is opened again or closed. -/
theorem view?_history (he : s.desk.editor.Apart) {events : List Event}
    (h : Along o (fun s event => ¬ s.Opens key event ∧ ¬ s.Closes key event) s events) :
    (s.history o events).desk.editor.view? key = s.desk.editor.view? key := by
  induction events generalizing s with
  | nil => rfl
  | cons event rest ih =>
    obtain ⟨⟨hopens, hcloses⟩, hrest⟩ := h
    exact (ih (apart_happen o he event) hrest).trans (view?_happen he hopens (.inr hcloses))

/-- What is not in view stays so until the document is opened. -/
theorem view?_history_none (he : s.desk.editor.Apart) {events : List Event}
    (h : Along o (fun s event => ¬ s.Opens key event) s events)
    (hnone : s.desk.editor.view? key = none) :
    (s.history o events).desk.editor.view? key = none := by
  induction events generalizing s with
  | nil => exact hnone
  | cons event rest ih =>
    obtain ⟨hopens, hrest⟩ := h
    refine ih (apart_happen o he event) hrest ?_
    rw [view?_happen he hopens (.inl hnone), hnone]

/-! ## Answers -/

/-- What is answered to a request for the annotations of a document. -/
theorem handle_annotations {r : Request} {name : String} {p : Path}
    (hroute : route r.method r.path = .ok .annotations) (hname : r.document = .ok name)
    (hpath : s.settings.pathOf s.desk.tree name = .ok p) :
    (s.handle o r).1 = match s.desk.editor.view? p.text with
      | some (annotations, markers) => some (.shown p.text annotations markers)
      | none => some (.rejected .notOpen) := by
  unfold handle
  rw [hroute]
  dsimp only [perform]
  rw [hname]
  dsimp only [Desk.showAnnotations]
  rw [hpath]
  dsimp only
  cases hlookup : s.desk.editor.overlayOf? p.text with
  | none => rw [Editor.view?_eq_none hlookup]
  | some id => rw [Editor.view?_of_overlayOf? hlookup]

/-- What a request to close a document does. -/
theorem handle_close {r : Request} {name : String} {p : Path}
    (hroute : route r.method r.path = .ok .close) (hname : r.document = .ok name)
    (hpath : s.settings.pathOf s.desk.tree name = .ok p) :
    s.handle o r = (some (.closed (s.desk.editor.view? p.text).isSome),
      { s with desk := ⟨s.desk.tree, (s.desk.editor.closeDocument p.text).1⟩ }) := by
  have hwas : (s.desk.editor.view? p.text).isSome = (s.desk.editor.closeDocument p.text).2 := by
    rw [Editor.closeDocument_eq]
    exact Option.isSome_map
  unfold handle
  rw [hroute]
  dsimp only [perform]
  rw [hname]
  dsimp only [Desk.closeDocument]
  rw [hpath, hwas]

/-- The marker that shows an annotation behind its line of a text. -/
def Marks (text : String) (a : Annotation) (m : Marker) : Prop :=
  1 ≤ a.line ∧ ∃ line, (Text.lines text)[a.line.toNat - 1]? = some line ∧
    m = ⟨a.line, line.length, " " ++ a.text, a.text⟩

theorem marks_markerFor {surface : Surface} {text : String} {a : Annotation}
    (hlines : surface.lines = Text.lines text) (hline : surface.hasLine a.line = true) :
    Marks text a (Editor.markerFor surface a) := by
  unfold Surface.hasLine Surface.lineCount at hline
  rw [hlines, Bool.and_eq_true, decide_eq_true_iff, decide_eq_true_iff] at hline
  have hlt : a.line.toNat - 1 < (Text.lines text).length := by omega
  refine ⟨hline.1, (Text.lines text)[a.line.toNat - 1], List.getElem?_eq_getElem hlt, ?_⟩
  unfold Editor.markerFor Surface.lineLength
  rw [hlines, List.getD_eq_getElem?_getD, List.getElem?_eq_getElem hlt]
  rfl

/-- The markers of a report on a text are behind the lines of the text. -/
theorem Shows.marks {e : Editor} {document text : String} {lines : List String}
    {report : PassReport} {markers : List Marker} (h : Shows e document lines report markers)
    (hlines : lines = Text.lines text) :
    List.Forall₂ (Marks text) report.annotations markers := by
  obtain ⟨surface, hsurface, hhas, rfl⟩ := h.marked
  rw [List.forall₂_map_right_iff, List.forall₂_same]
  exact fun a ha => marks_markerFor (hsurface.trans hlines) (hhas a ha)

/-- What has been done when a validation is answered with status 200. -/
theorem Handled.reported {r : Request} {answer : Answer} {result : Option Answer × Service σ}
    (h : Handled o s r result) (he : s.desk.editor.Registered)
    (hroute : route r.method r.path = .ok .validate) (hanswer : result.1 = some answer)
    (hstatus : (r.respond answer).status = 200) :
    ∃ v document text report markers, Validation.ofBody r.body = .ok v ∧
      s.settings.pathOf s.desk.tree v.path = .ok document ∧
      v.textOf s.desk.tree document = .ok text ∧ answer = .validated report markers ∧
      Shows result.2.desk.editor document.text (Text.lines text) report markers := by
  cases h with
  | turnedDown x =>
    cases hanswer
    exact absurd hstatus (status_rejected_ne r x)
  | @passed v c _ hroute' hbody hcheck hpassed =>
    obtain ⟨hpath, -, text, htext, hlines⟩ := Validation.check_ok hcheck
    obtain ⟨as, -, htells⟩ := hpassed.leaves he
    rw [hanswer] at htells
    cases htells with
    | breakdown hnone b => exact absurd hstatus (status_rejected_ne r _)
    | @report report hreport has hworded =>
      exact ⟨v, c.document, text, report, _, hbody, hpath, htext, rfl,
        hlines ▸ hpassed.shows he hanswer⟩
  | shown hroute' document annotations markers => cases hroute.symm.trans hroute'
  | closed hroute' hname hpath => cases hroute.symm.trans hroute'
  | health hroute' reachable connection outside => cases hroute.symm.trans hroute'
  | unhealthy hroute' fault connection outside => cases hroute.symm.trans hroute'

/-- **What has been reported stays in view.** Whatever requests came before, a validation that is
answered with status 200 reports annotations in the order of their lines, and their markers one for
one; and later requests for the document, however they name it, are answered with these annotations
and markers and status 200, as long as the document is neither validated again past the checks nor
closed. After a request to close it, until it is validated again past the checks, there is nothing
to show and nothing to close. Two names mean the same document if they resolve to the same path;
there are no links among the files, so resolving takes double points back one by one. -/
theorem annotations_stay_in_view (o : Outside σ) {start : Service σ}
    (hstart : start.desk.editor = .empty) (before : List Event) :
    let s := start.history o before
    (∀ r answer, route r.method r.path = .ok .validate → (s.handle o r).1 = some answer →
      (r.respond answer).status = 200 →
      ∃ v document text report markers, Validation.ofBody r.body = .ok v ∧
        s.settings.pathOf s.desk.tree v.path = .ok document ∧
        v.textOf s.desk.tree document = .ok text ∧ answer = .validated report markers ∧
        report.annotations.Pairwise (·.line < ·.line) ∧
        List.Forall₂ (Marks text) report.annotations markers ∧
        ∀ between, Along o (fun s event => ¬ s.Opens document.text event ∧
            ¬ s.Closes document.text event) (s.handle o r).2 between →
          let later := (s.handle o r).2.history o between
          ∀ r' name p, route r'.method r'.path = .ok .annotations → r'.document = .ok name →
            later.settings.pathOf later.desk.tree name = .ok p → p.text = document.text →
            (later.handle o r').1 = some (.shown document.text report.annotations markers) ∧
              (r'.respond (.shown document.text report.annotations markers)).status = 200) ∧
    ∀ r name p, route r.method r.path = .ok .close → r.document = .ok name →
      s.settings.pathOf s.desk.tree name = .ok p →
      (∃ wasOpen, (s.handle o r).1 = some (.closed wasOpen)) ∧
      ∀ between, Along o (fun s event => ¬ s.Opens p.text event) (s.handle o r).2 between →
        let later := (s.handle o r).2.history o between
        ∀ r' name' p', r'.document = .ok name' →
          later.settings.pathOf later.desk.tree name' = .ok p' → p'.text = p.text →
          (route r'.method r'.path = .ok .annotations →
            (later.handle o r').1 = some (.rejected .notOpen) ∧
              (r'.respond (.rejected .notOpen)).status = 404) ∧
          (route r'.method r'.path = .ok .close →
            (later.handle o r').1 = some (.closed false)) := by
  intro s
  have hs : s.desk.editor.Apart := apart_history o (hstart ▸ Editor.Apart.empty) before
  refine ⟨?_, ?_⟩
  · -- The report is in view right after the validation, and what is in view stays.
    intro r answer hroute hanswer hstatus
    have hhandled := handled_handle o s r
    obtain ⟨v, document, text, report, markers, hbody, hpath, htext, rfl, hshows⟩ :=
      hhandled.reported hs.registered hroute hanswer hstatus
    refine ⟨v, document, text, report, markers, hbody, hpath, htext, rfl, hshows.sorted,
      hshows.marks rfl, ?_⟩
    intro between halong later r' name p hroute' hname hpath' hp
    refine ⟨?_, hshows.status_shown hstatus r'⟩
    rw [handle_annotations hroute' hname hpath', hp, view?_history (hhandled.apart hs) halong,
      hshows.view]
  · -- A document that was closed is not in view, and stays so.
    intro r name p hroute hname hpath
    rw [handle_close hroute hname hpath]
    refine ⟨⟨_, rfl⟩, ?_⟩
    intro between halong later r' name' p' hname' hpath' hp
    have hclosed : (s.desk.editor.closeDocument p.text).1.view? p.text = none := by
      refine Editor.view?_eq_none ?_
      rw [Editor.overlayOf?_closeDocument, if_pos rfl]
    have hlater : later.desk.editor.view? p'.text = none := by
      rw [hp]
      exact view?_history_none (hs.closeDocument p.text) halong hclosed
    refine ⟨fun hroute' => ⟨?_, status_respond r' _⟩, fun hroute' => ?_⟩
    · rw [handle_annotations hroute' hname' hpath', hlater]
    · rw [handle_close hroute' hname' hpath', hlater]
      rfl

/-- A request to validate a text with a character that no YAML token starts with. -/
def faultyRequest : Request :=
  validationRequest [("path", .str "v.yml"), ("text", .str "a: 1\nb: @c")]

/-- The markers that a validation is answered with. -/
def answeredMarkers : Answer → List Marker
  | .validated _ markers => markers
  | _ => []

/-- The error in a text is still shown, for another name of the document, when all files are gone;
and once the document is closed, nothing is shown. -/
theorem annotations_stay_in_view_spelled :
    (∃ (report : PassReport) (markers : List Marker),
      (small.handle quietOutside.recorded faultyRequest).1 = some (.validated report markers) ∧
      markers = [⟨2, 5, " [yaml]: found character '@' that cannot start any token",
        "[yaml]: found character '@' that cannot start any token"⟩] ∧
      (((small.handle quietOutside.recorded faultyRequest).2.history quietOutside.recorded
        [.files []]).handle quietOutside.recorded
          ⟨"GET", "/api/annotations", [("path", "../ws//v.yml")], []⟩).1 =
        some (.shown "/ws/v.yml" report.annotations markers)) ∧
    ((((small.history quietOutside.recorded [.request faultyRequest]).handle quietOutside.recorded
      ⟨"DELETE", "/api/annotations", [("path", "./v.yml")], []⟩).2.history quietOutside.recorded
        []).handle quietOutside.recorded ⟨"GET", "/api/annotations", [("path", "v.yml")], []⟩).1 =
      some (.rejected .notOpen) := by
  have hbody : Validation.ofBody faultyRequest.body =
      .ok ⟨"v.yml", some "a: 1\nb: @c", none, none, ""⟩ :=
    except_toOption_some.1 (by decide +kernel)
  have hdocument : small.settings.pathOf small.desk.tree "v.yml" = .ok ⟨"/", ["ws", "v.yml"]⟩ := rfl
  have hname : (⟨"/", ["ws", "v.yml"]⟩ : Path).text = "/ws/v.yml" := by decide +kernel
  have hstart : small.desk.editor = .empty := rfl
  constructor
  · obtain ⟨answer, hanswer, hstatus⟩ := Option.map_eq_some_iff.1 (by decide +kernel :
      (small.handle quietOutside.recorded faultyRequest).1.map
        (fun answer => (faultyRequest.respond answer).status) = some 200)
    obtain ⟨hvalidated, -⟩ := annotations_stay_in_view quietOutside.recorded hstart []
    obtain ⟨v, document, text, report, markers, hv, hpath, -, rfl, -, -, hlater⟩ :=
      hvalidated faultyRequest answer rfl hanswer hstatus
    cases hv.symm.trans hbody
    cases hpath.symm.trans hdocument
    refine ⟨report, markers, hanswer, ?_, ?_⟩
    · have hmarkers : (small.handle quietOutside.recorded faultyRequest).1.map answeredMarkers =
          some [⟨2, 5, " [yaml]: found character '@' that cannot start any token",
            "[yaml]: found character '@' that cannot start any token"⟩] := by decide +kernel
      rw [hanswer] at hmarkers
      exact Option.some.inj hmarkers
    · have hshown := hlater [.files []] ⟨⟨id, id⟩, trivial⟩
        ⟨"GET", "/api/annotations", [("path", "../ws//v.yml")], []⟩
        "../ws//v.yml" ⟨"/", ["ws", "v.yml"]⟩ rfl rfl (except_toOption_some.1 (by decide +kernel))
        rfl
      rw [hname] at hshown
      exact hshown.1
  · obtain ⟨-, hclosed⟩ := annotations_stay_in_view quietOutside.recorded hstart
      [.request faultyRequest]
    obtain ⟨-, hlater⟩ := hclosed ⟨"DELETE", "/api/annotations", [("path", "./v.yml")], []⟩ _
      ⟨"/", ["ws", "v.yml"]⟩ rfl rfl (except_toOption_some.1 (by decide +kernel))
    obtain ⟨hshown, -⟩ := hlater [] trivial ⟨"GET", "/api/annotations", [("path", "v.yml")], []⟩ _
      ⟨"/", ["ws", "v.yml"]⟩ rfl (except_toOption_some.1 (by decide +kernel)) rfl
    exact (hshown rfl).1

end Service

end VarsAdvisor

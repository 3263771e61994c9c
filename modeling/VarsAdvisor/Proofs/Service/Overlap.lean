import VarsAdvisor.Proofs.Floor.OwnOverlays
import VarsAdvisor.Proofs.Service.History
import VarsAdvisor.Service.Traffic

/-!
# Validations that overlap

Validations come in while others are under way, and documents are closed in between. An event turns
a request down, opens a document, opens one and starts a pass over it, closes one, or takes a pass
on (`Traffic.Moved`). A validation that is answered with a report is answered with the markers that
its document shows at that moment. They are those of its own annotations if no other event has
opened or closed the document since the validation came in; otherwise there are none, whatever the
report says (`markers_match_unless_touched`).
-/

namespace VarsAdvisor

theorem Desk.editor_dismiss (d : Desk) (job : Job) : (d.dismiss job).editor = d.editor := by
  unfold dismiss removeCopy
  split
  · rfl
  · rfl

namespace Traffic

variable {σ : Type} {o : Outside σ} {t : Traffic σ} {event : TrafficEvent} {key : String}

/-! ## Events -/

/-- The event opens or closes the document. -/
def Touches (t : Traffic σ) (key : String) : TrafficEvent → Prop
  | .validate v => ∃ c, v.check t.settings t.tree = .ok c ∧ c.document.text = key
  | .close name => ∃ p, t.settings.pathOf t.tree name = .ok p ∧ p.text = key
  | .advance _ | .cancel _ => False

/-- None of the events, one after the other, opens or closes the document. -/
def Untouched (o : Outside σ) (key : String) : Traffic σ → List TrafficEvent → Prop
  | _, [] => True
  | t, event :: rest => ¬ t.Touches key event ∧ Untouched o key (t.move o event).2 rest

theorem touches_validate {v : Validation}
    (h : (v.check t.settings t.tree).toOption.map (·.document.text) = some key) :
    t.Touches key (.validate v) := by
  obtain ⟨c, hc, hkey⟩ := Option.map_eq_some_iff.1 h
  exact ⟨c, except_toOption_some.1 hc, hkey⟩

/-- With another editor. -/
def withEditor (t : Traffic σ) (e : Editor) : Traffic σ :=
  { t with floor := { t.floor with editor := e } }

/-- What comes of an event. A validation that is admitted has opened its document on a new surface,
whose overlay its pass gets. -/
inductive Moved (o : Outside σ) (t : Traffic σ) : TrafficEvent → Option Answer × Traffic σ → Prop
  | turnedDown {event : TrafficEvent} (hno : ∀ key, ¬ t.Touches key event) (r : Rejection) :
      Moved o t event (some (.rejected r), t)
  | noPlace {v : Validation} {c : Cleared} (hcheck : v.check t.settings t.tree = .ok c)
      (b : Breakdown) :
      Moved o t (.validate v) (some (.rejected (.breakdown b)),
        t.withEditor (t.floor.editor.present c.document.text c.lines).1)
  | admitted {v : Validation} {c : Cleared} (hcheck : v.check t.settings t.tree = .ok c)
      {job : Job} (hkey : job.key = c.document.text)
      (hdocument : job.assignment.document = c.document)
      (hoverlay : job.overlay = (t.floor.editor.present c.document.text c.lines).2) (tree : Tree) :
      Moved o t (.validate v) (none, ⟨t.settings, tree,
        (t.withEditor (t.floor.editor.present c.document.text c.lines).1).floor.start job⟩)
  | closed {name : String} {p : Path} (hpath : t.settings.pathOf t.tree name = .ok p) :
      Moved o t (.close name) (some (.closed (t.floor.editor.closeDocument p.text).2),
        t.withEditor (t.floor.editor.closeDocument p.text).1)
  | wentOn {event : TrafficEvent} {pass : Nat} {floor : Floor (Connection × σ)}
      (hevent : event = .advance pass ∨ event = .cancel pass ∧ floor = t.floor.cancel pass)
      (hhappens : Floor.Happens (o.collaborators t.settings t.tree) t.settings.crew t.floor floor)
      (hlength : floor.jobs.length = t.floor.jobs.length) :
      Moved o t event (t.settleWith pass floor)

theorem moved_arrive (o : Outside σ) (t : Traffic σ) (v : Validation) :
    Moved o t (.validate v) (t.arrive o v) := by
  unfold arrive
  cases hcheck : v.check t.settings t.tree with
  | error r =>
    rw [Desk.receive_of_error (d := t.desk) hcheck]
    refine .turnedDown ?_ r
    rintro key ⟨c, hc, -⟩
    cases hcheck.symm.trans hc
  | ok c =>
    obtain ⟨b, hreceive⟩ | ⟨source, tree, -, -, hreceive⟩ :=
      Desk.receive_cases (d := t.desk) hcheck (o.marks t.floor.outside.2)
    · rw [hreceive]
      exact .noPlace hcheck b
    · rw [hreceive]
      refine .admitted hcheck ?_ rfl rfl tree
      exact key_of_pathOf (a := ⟨c.document, c.schema, c.context, source⟩)
        (Validation.check_ok hcheck).path _ _

theorem moved_move (o : Outside σ) (t : Traffic σ) (event : TrafficEvent) :
    Moved o t event (t.move o event) := by
  cases event with
  | validate v => exact moved_arrive o t v
  | advance pass =>
    exact .wentOn (.inl rfl) (Floor.happens_move _ _ t.floor (.advance pass))
      (Floor.length_advance _ _ t.floor pass)
  | cancel pass =>
    exact .wentOn (.inr ⟨rfl, rfl⟩)
      (Floor.happens_move (o.collaborators t.settings t.tree) t.settings.crew t.floor
        (.cancel pass))
      (Floor.length_cancel t.floor pass)
  | close name =>
    unfold move Desk.closeDocument
    dsimp only [desk]
    cases hpath : t.settings.pathOf t.tree name with
    | error r =>
      refine .turnedDown ?_ r
      rintro key ⟨p, hp, -⟩
      cases hpath.symm.trans hp
    | ok p => exact .closed hpath

/-- Answering a validation leaves the floor as it is. -/
theorem floor_settleWith (t : Traffic σ) (pass : Nat) (floor : Floor (Connection × σ)) :
    (t.settleWith pass floor).2.floor = floor := by
  unfold settleWith
  dsimp only
  split
  · unfold withDesk
    rw [Desk.editor_dismiss]
    rfl
  · rfl

namespace Moved

variable {result : Option Answer × Traffic σ}

/-! ## One event -/

theorem ownOverlays (h : Moved o t event result) (ht : t.floor.OwnOverlays) :
    result.2.floor.OwnOverlays := by
  cases h with
  | turnedDown hno r => exact ht
  | noPlace hcheck b => exact ht.present _ _
  | admitted hcheck hkey hdocument hoverlay tree => exact ht.startOn _ _ hkey hoverlay
  | closed hpath => exact ht.closeDocument _
  | wentOn hevent hhappens hlength =>
    rw [floor_settleWith]
    exact ht.happens hhappens hlength

/-- A document has an overlay still, unless the event opens or closes it. -/
theorem overlayOf?_iff (h : Moved o t event result) (ht : t.floor.OwnOverlays) {id : OverlayId}
    (hid : id < t.floor.editor.overlays.length) :
    result.2.floor.editor.overlayOf? key = some id ↔
      t.floor.editor.overlayOf? key = some id ∧ ¬ t.Touches key event := by
  have hopened : ∀ {v : Validation} {c : Cleared}, v.check t.settings t.tree = .ok c →
      ((t.floor.editor.present c.document.text c.lines).1.overlayOf? key = some id ↔
        t.floor.editor.overlayOf? key = some id ∧ ¬ t.Touches key (.validate v)) := by
    intro v c hcheck
    rw [ht.spread.overlayOf?_present]
    split
    · next hkey =>
      constructor
      · intro hnew
        exact absurd (Option.some.inj hnew).symm (Nat.ne_of_lt hid)
      · intro hold
        exact absurd ⟨c, hcheck, hkey⟩ hold.2
    · next hkey =>
      refine ⟨fun hold => ⟨hold, ?_⟩, And.left⟩
      rintro ⟨c', hcheck', hkey'⟩
      cases hcheck.symm.trans hcheck'
      exact hkey hkey'
  cases h with
  | turnedDown hno r => exact (and_iff_left (hno key)).symm
  | noPlace hcheck b => exact hopened hcheck
  | admitted hcheck hkey hdocument hoverlay tree => exact hopened hcheck
  | @closed name p hpath =>
    have hclosed := Editor.overlayOf?_closeDocument t.floor.editor p.text key
    show (t.floor.editor.closeDocument p.text).1.overlayOf? key = some id ↔ _
    rw [hclosed]
    split
    · next hkey =>
      constructor
      · intro hnone
        cases hnone
      · intro hold
        exact absurd ⟨p, hpath, hkey⟩ hold.2
    · next hkey =>
      refine ⟨fun hold => ⟨hold, ?_⟩, And.left⟩
      rintro ⟨p', hpath', hkey'⟩
      cases hpath.symm.trans hpath'
      exact hkey hkey'
  | wentOn hevent hhappens hlength =>
    rw [floor_settleWith, hhappens.overlayOf?]
    refine (and_iff_left ?_).symm
    rcases hevent with rfl | ⟨rfl, -⟩ <;> exact not_false

/-- An overlay keeps its surface, and the surface its lines. -/
theorem surfaceOf (h : Moved o t event result) (ht : t.floor.OwnOverlays) {id : OverlayId}
    (hid : id < t.floor.editor.overlays.length) :
    (result.2.floor.editor.surfaceOf id).bare = (t.floor.editor.surfaceOf id).bare := by
  cases h with
  | turnedDown hno r => rfl
  | noPlace hcheck b => exact ht.spread.surfaceOf_present _ _ hid
  | admitted hcheck hkey hdocument hoverlay tree => exact ht.spread.surfaceOf_present _ _ hid
  | closed hpath => exact Editor.surfaceOf_closeDocument _ _ id
  | wentOn hevent hhappens hlength =>
    rw [floor_settleWith]
    exact hhappens.bare_surfaceOf id

/-- A pass is there already, or a validation that passes its checks starts it over the document that
it opens. -/
theorem started (h : Moved o t event result) (ht : t.floor.OwnOverlays) {pass : Nat} {job : Job}
    {stage : Stage} (hat : result.2.floor.jobs[pass]? = some (job, stage)) :
    (∃ before, t.floor.jobs[pass]? = some (job, before)) ∨
      ∃ v c, event = .validate v ∧ v.check t.settings t.tree = .ok c ∧
        pass = t.floor.jobs.length ∧ job.key = c.document.text ∧
        job.assignment.document = c.document ∧
        result.2.floor.editor.overlayOf? job.key = some job.overlay ∧
        (result.2.floor.editor.surfaceOf job.overlay).bare = .ofLines c.lines := by
  cases h with
  | turnedDown hno r => exact .inl ⟨stage, hat⟩
  | noPlace hcheck b => exact .inl ⟨stage, hat⟩
  | @admitted v c hcheck job' hkey hdocument hoverlay tree =>
    obtain hold | ⟨rfl, rfl, -⟩ := Floor.getElem?_start hat
    · exact .inl ⟨stage, hold⟩
    · refine .inr ⟨v, c, rfl, hcheck, rfl, hkey, hdocument, ?_, ?_⟩
      · have hlookup := ht.spread.overlayOf?_present c.document.text c.document.text c.lines
        rw [if_pos rfl] at hlookup
        have hnew : job.overlay = t.floor.editor.overlays.length := by
          rw [hoverlay, ht.spread.placed.present_eq]
        rw [hkey, hnew]
        exact hlookup
      · rw [hoverlay]
        exact ht.spread.placed.surfaceOf_present c.document.text c.lines
  | closed hpath => exact .inl ⟨stage, hat⟩
  | wentOn hevent hhappens hlength =>
    rw [floor_settleWith] at hat
    obtain ⟨before, hbefore, -⟩ := hhappens.before hlength hat
    exact .inl ⟨before, hbefore⟩

end Moved

/-! ## Answers -/

/-- A validation that is answered with a report is one whose pass has just become done. -/
theorem validated_of_settleWith {pass : Nat} {floor : Floor (Connection × σ)} {report : PassReport}
    {markers : List Marker}
    (h : (t.settleWith pass floor).1 = some (.validated report markers)) :
    ∃ job stage job', t.floor.jobs[pass]? = some (job, stage) ∧ stage.lock? ≠ none ∧
      floor.jobs[pass]? = some (job', .ended (.done report)) ∧
      markers = Desk.markersOf ⟨t.tree, floor.editor⟩ job.assignment.document.text := by
  unfold settleWith at h
  dsimp only at h
  split at h
  · next ending job hbefore hafter hjob =>
    obtain ⟨⟨job', stage⟩, hat, rfl⟩ := Option.map_eq_some_iff.1 hjob
    obtain ⟨job'', hdone⟩ := Floor.exists_of_ending? hafter
    cases ending with
    | done report' =>
      cases h
      refine ⟨job', stage, job'', hat, Floor.lock?_ne_none hat hbefore, hdone, ?_⟩
      unfold Desk.markersOf
      rw [Desk.editor_dismiss]
      rfl
    | failed fault => cases h
    | cancelled => cases h
  · cases h

namespace Moved

variable {result : Option Answer × Traffic σ}

/-- What a validation is answered with: a report on its document, with annotations of lines of the
surface that the document was opened on, and a marker for each of them if the document has the
overlay of its pass still, else none. -/
theorem validated (h : Moved o t event result) (ht : t.floor.OwnOverlays)
    (hkeys : ∀ {pass : Nat} {job : Job} {stage : Stage}, t.floor.jobs[pass]? = some (job, stage) →
      job.key = job.assignment.document.text)
    {report : PassReport} {markers : List Marker}
    (hanswer : result.1 = some (.validated report markers)) :
    ∃ pass job stage, event = .advance pass ∧ t.floor.jobs[pass]? = some (job, stage) ∧
      report.document = job.assignment.document ∧
      report.annotations.Pairwise (·.line < ·.line) ∧
      (∀ a ∈ report.annotations,
        (result.2.floor.editor.surfaceOf job.overlay).hasLine a.line = true) ∧
      markers = if t.floor.editor.overlayOf? job.key = some job.overlay then
        report.annotations.map (Editor.markerFor (result.2.floor.editor.surfaceOf job.overlay))
        else [] := by
  cases h with
  | turnedDown hno r => cases hanswer
  | noPlace hcheck b => cases hanswer
  | admitted hcheck hkey hdocument hoverlay tree => cases hanswer
  | closed hpath => cases hanswer
  | @wentOn event pass floor hevent hhappens hlength =>
    obtain ⟨job, stage, job', hat, halive, hdone, rfl⟩ := validated_of_settleWith hanswer
    obtain ⟨later, hlater, -⟩ := hhappens.keeps hat
    cases hlater.symm.trans hdone
    rw [floor_settleWith]
    obtain ⟨hdocument, hsorted, hlines, hshown⟩ := ht.reports hhappens hlength hat halive hdone
    refine ⟨pass, job, stage, ?_, hat, hdocument, hsorted, hlines, ?_⟩
    · rcases hevent with hadvance | ⟨-, rfl⟩
      · exact hadvance
      · -- A pass that is cancelled does not become done.
        rw [Floor.getElem?_cancel ht.obedient hat halive] at hdone
        cases hdone
    · rw [← hhappens.overlayOf?, ← hkeys hat]
      unfold Desk.markersOf
      dsimp only
      split
      · next id hid =>
        rw [hshown id hid, hid]
        by_cases hown : id = job.overlay
        · rw [if_pos hown, if_pos (congrArg some hown)]
        · rw [if_neg hown, if_neg fun hsame => hown (Option.some.inj hsame)]
      · next hnone =>
        rw [hnone, if_neg (Option.some_ne_none _).symm]

end Moved

/-! ## Runs -/

theorem run_cons (o : Outside σ) (event : TrafficEvent) (rest : List TrafficEvent)
    (t : Traffic σ) : (run o (event :: rest) t).2 = (run o rest (t.move o event).2).2 := rfl

theorem run_append (o : Outside σ) (before after : List TrafficEvent) (t : Traffic σ) :
    (run o (before ++ after) t).2 = (run o after (run o before t).2).2 := by
  induction before generalizing t with
  | nil => rfl
  | cons event rest ih => exact ih _

theorem untouched_append (before after : List TrafficEvent) :
    Untouched o key t (before ++ after) ↔
      Untouched o key t before ∧ Untouched o key (run o before t).2 after := by
  induction before generalizing t with
  | nil => exact (and_iff_right trivial).symm
  | cons event rest ih =>
    show ¬ t.Touches key event ∧ Untouched o key (t.move o event).2 (rest ++ after) ↔ _
    rw [ih, ← and_assoc]
    rfl

theorem ownOverlays_run (o : Outside σ) (ht : t.floor.OwnOverlays) (events : List TrafficEvent) :
    (run o events t).2.floor.OwnOverlays := by
  induction events generalizing t with
  | nil => exact ht
  | cons event rest ih => exact ih ((moved_move o t event).ownOverlays ht)

/-- A pass was started by a validation, and events have come after it. The overlay of the pass is on
a surface with the lines that were to be checked, and it is still that of the document exactly if
none of the later events has opened or closed the document. -/
structure StartedBy (o : Outside σ) (t : Traffic σ) (v : Validation) (between : List TrafficEvent)
    (c : Cleared) (pass : Nat) (job : Job) : Prop where
  check : v.check t.settings t.tree = .ok c
  next : pass = t.floor.jobs.length
  key : job.key = c.document.text
  document : job.assignment.document = c.document
  lines : ((run o between (t.move o (.validate v)).2).2.floor.editor.surfaceOf job.overlay).bare =
    .ofLines c.lines
  keeps : (run o between (t.move o (.validate v)).2).2.floor.editor.overlayOf? job.key =
    some job.overlay ↔ Untouched o job.key (t.move o (.validate v)).2 between

theorem StartedBy.move {v : Validation} {between : List TrafficEvent} {c : Cleared} {pass : Nat}
    {job : Job} (h : StartedBy o t v between c pass job)
    (hown : (run o between (t.move o (.validate v)).2).2.floor.OwnOverlays)
    (hused : job.overlay <
      (run o between (t.move o (.validate v)).2).2.floor.editor.overlays.length)
    (event : TrafficEvent) : StartedBy o t v (between ++ [event]) c pass job := by
  have hmoved := moved_move o (run o between (t.move o (.validate v)).2).2 event
  refine ⟨h.check, h.next, h.key, h.document, ?_, ?_⟩
  · rw [run_append]
    exact (hmoved.surfaceOf hown hused).trans h.lines
  · rw [run_append, untouched_append, ← h.keeps]
    refine (hmoved.overlayOf?_iff hown hused).trans ?_
    exact and_congr_right fun _ => (and_iff_left trivial).symm

/-- Every pass was started by a validation. -/
theorem exists_startedBy (o : Outside σ) {start : Traffic σ} {s : Connection × σ}
    (hstart : start.floor = .begin .empty s) (events : List TrafficEvent) {pass : Nat} {job : Job}
    {stage : Stage} (hat : (run o events start).2.floor.jobs[pass]? = some (job, stage)) :
    ∃ before v between c, events = before ++ .validate v :: between ∧
      StartedBy o (run o before start).2 v between c pass job := by
  have hown : ∀ events, (run o events start).2.floor.OwnOverlays :=
    ownOverlays_run o (hstart ▸ Floor.OwnOverlays.begin s)
  induction events using List.reverseRecOn generalizing stage with
  | nil =>
    have hnone : start.floor.jobs[pass]? = some (job, stage) := hat
    rw [hstart] at hnone
    cases hnone
  | append_singleton events event ih =>
    rw [run_append] at hat
    rcases (moved_move o _ event).started (hown events) hat with ⟨earlier, hold⟩ |
      ⟨v, c, rfl, hcheck, hpass, hkey, hdocument, hlookup, hlines⟩
    · obtain ⟨before, v, between, c, rfl, hstarted⟩ := ih hold
      have hused := (hown _).inUse hold
      have hbetween := hown (before ++ .validate v :: between)
      rw [run_append, run_cons] at hused hbetween
      refine ⟨before, v, between ++ [event], c, ?_, hstarted.move hbetween hused event⟩
      rw [List.append_assoc, List.cons_append]
    · refine ⟨events, v, [], c, rfl, hcheck, hpass, hkey, hdocument, hlines, ?_⟩
      exact iff_of_true hlookup trivial

/-- **A validation shows the markers of its report, unless its document has been touched meanwhile.**
Whatever has happened so far, a validation that is answered with a report came in as one of the
events, and its answer comes when its own pass takes its last step. The report is about its document
and in the order of lines. If none of the events since then has opened or closed the document, the
markers are those of the annotations, one for one, each behind its line of the text that was
validated, and with the annotation's text to hover. Otherwise there are no markers at all. Names
mean one document if they resolve to one path; there are no links among the files. -/
theorem markers_match_unless_touched (o : Outside σ) {start : Traffic σ} {s : Connection × σ}
    (hstart : start.floor = .begin .empty s) (events : List TrafficEvent) (event : TrafficEvent)
    {report : PassReport} {markers : List Marker}
    (hanswer : ((run o events start).2.move o event).1 = some (.validated report markers)) :
    ∃ before v between c text, events = before ++ .validate v :: between ∧
      let t := (run o before start).2
      v.check t.settings t.tree = .ok c ∧ v.textOf t.tree c.document = .ok text ∧
      event = .advance t.floor.jobs.length ∧ report.document = c.document ∧
      report.annotations.Pairwise (·.line < ·.line) ∧
      (Untouched o c.document.text (t.move o (.validate v)).2 between →
        List.Forall₂ (Service.Marks text) report.annotations markers) ∧
      (¬ Untouched o c.document.text (t.move o (.validate v)).2 between → markers = []) := by
  have hown := ownOverlays_run o (hstart ▸ Floor.OwnOverlays.begin s) events
  have hmoved := moved_move o (run o events start).2 event
  have hkeys : ∀ {pass : Nat} {job : Job} {stage : Stage},
      (run o events start).2.floor.jobs[pass]? = some (job, stage) →
        job.key = job.assignment.document.text := by
    intro pass job stage hat
    obtain ⟨before, v, between, c, -, hstarted⟩ := exists_startedBy o hstart events hat
    rw [hstarted.key, hstarted.document]
  obtain ⟨pass, job, stage, rfl, hat, hdocument, hsorted, hlines, hmarkers⟩ :=
    hmoved.validated hown hkeys hanswer
  obtain ⟨before, v, between, c, rfl, hstarted⟩ := exists_startedBy o hstart events hat
  obtain ⟨-, -, text, htext, hcleared⟩ := Validation.check_ok hstarted.check
  have hsurface := hmoved.surfaceOf hown (hown.inUse hat)
  rw [run_append, run_cons] at hmarkers hsurface hlines
  have hbare := hsurface.trans hstarted.lines
  have hkeeps := hstarted.keeps
  rw [hstarted.key] at hmarkers hkeeps
  refine ⟨before, v, between, c, text, rfl, hstarted.check, htext, ?_, ?_, hsorted, ?_, ?_⟩
  · rw [hstarted.next]
  · rw [hdocument, hstarted.document]
  · intro huntouched
    rw [hmarkers, if_pos (hkeeps.2 huntouched), List.forall₂_map_right_iff, List.forall₂_same]
    intro a ha
    refine Service.marks_markerFor ?_ (hlines a ha)
    exact (congrArg Surface.lines hbare).trans hcleared
  · intro htouched
    rw [hmarkers, if_neg (mt hkeeps.1 htouched)]

/-- A small workspace in which no request has come yet. -/
def quietStart : Traffic (Unit × List Outside.Sighting × List ChatRequest) :=
  .begin Service.small.settings Service.small.desk (.fresh, (), [], [])

/-- A text with a character that no YAML token starts with. -/
def faultyText : Validation :=
  ⟨"v.yml", some "a: 1\nb: @c", none, none, ""⟩

/-- A better text of the same document, under another name. -/
def mendedText : Validation :=
  ⟨"../ws/v.yml", some "a: 1\nb: c", none, none, ""⟩

/-- The lines on which a validation reports something. -/
def reportedLines : Answer → List Int
  | .validated report _ => report.annotations.map (·.line)
  | _ => []

theorem validated_of_reportedLines {answer : Option Answer} {lines : List Int}
    (h : answer.map reportedLines = some lines) (hlines : lines ≠ []) :
    ∃ report markers, answer = some (.validated report markers) ∧
      report.annotations.map (·.line) = lines := by
  obtain ⟨answer, rfl, rfl⟩ := Option.map_eq_some_iff.1 h
  cases answer with
  | validated report markers => exact ⟨report, markers, rfl, rfl⟩
  | _ => exact absurd rfl hlines

theorem advances_ne {v : Validation} {before between : List TrafficEvent} :
    [TrafficEvent.advance 0, .advance 0, .advance 0] ≠ before ++ .validate v :: between := by
  intro h
  have hmem : .validate v ∈ [TrafficEvent.advance 0, .advance 0, .advance 0] :=
    h ▸ List.mem_append_right _ List.mem_cons_self
  simp at hmem

/-- A validation that runs alone shows the error that it reports. If a better text comes in while it
is under way, it reports the error and shows nothing. -/
theorem markers_match_unless_touched_two :
    (∃ report markers,
      ((run Service.quietOutside.recorded
        [.validate faultyText, .advance 0, .advance 0, .advance 0] quietStart).2.move
          Service.quietOutside.recorded (.advance 0)).1 = some (.validated report markers) ∧
      report.annotations.map (·.line) = [2] ∧
      List.Forall₂ (Service.Marks "a: 1\nb: @c") report.annotations markers) ∧
    ∃ report,
      ((run Service.quietOutside.recorded
        [.validate faultyText, .validate mendedText, .advance 0, .advance 0, .advance 0]
          quietStart).2.move Service.quietOutside.recorded (.advance 0)).1 =
        some (.validated report []) ∧
      report.annotations.map (·.line) = [2] := by
  constructor
  · obtain ⟨report, markers, hanswer, hlines⟩ := validated_of_reportedLines
      (by decide +kernel :
        ((run Service.quietOutside.recorded
          [.validate faultyText, .advance 0, .advance 0, .advance 0] quietStart).2.move
            Service.quietOutside.recorded (.advance 0)).1.map reportedLines = some [2])
      (List.cons_ne_nil _ _)
    obtain ⟨before, v, between, c, text, hevents, -, htext, -, -, -, hmatch, -⟩ :=
      markers_match_unless_touched Service.quietOutside.recorded rfl _ _ hanswer
    cases before with
    | nil =>
      cases hevents
      cases htext
      exact ⟨report, markers, hanswer, hlines, hmatch ⟨id, id, id, trivial⟩⟩
    | cons first rest => exact absurd (List.cons.inj hevents).2 advances_ne
  · obtain ⟨report, markers, hanswer, hlines⟩ := validated_of_reportedLines
      (by decide +kernel :
        ((run Service.quietOutside.recorded
          [.validate faultyText, .validate mendedText, .advance 0, .advance 0, .advance 0]
            quietStart).2.move Service.quietOutside.recorded (.advance 0)).1.map reportedLines =
          some [2])
      (List.cons_ne_nil _ _)
    obtain ⟨before, v, between, c, text, hevents, hcheck, -, hpass, -, -, -, htouched⟩ :=
      markers_match_unless_touched Service.quietOutside.recorded rfl _ _ hanswer
    cases before with
    | nil =>
      cases hevents
      have hcleared : faultyText.check quietStart.settings quietStart.tree = .ok c := hcheck
      have hdocument : (faultyText.check quietStart.settings quietStart.tree).toOption.map
          (·.document.text) = some "/ws/v.yml" := by decide +kernel
      rw [hcleared] at hdocument
      have hmended : (quietStart.move Service.quietOutside.recorded (.validate faultyText)).2.Touches
          "/ws/v.yml" (.validate mendedText) := touches_validate (by decide +kernel)
      rw [← Option.some.inj hdocument] at hmended
      rw [htouched fun h => h.1 hmended] at hanswer
      exact ⟨report, hanswer, hlines⟩
    | cons first rest =>
      -- The better text is checked by the second pass, and it is the first one that is done.
      obtain ⟨rfl, hrest⟩ := List.cons.inj hevents
      cases rest with
      | nil =>
        have hsecond : (run Service.quietOutside.recorded [.validate faultyText]
            quietStart).2.floor.jobs.length = 1 := by decide +kernel
        rw [hsecond] at hpass
        cases hpass
      | cons second rest => exact absurd (List.cons.inj hrest).2 advances_ne

end Traffic

end VarsAdvisor

import VarsAdvisor.Proofs.Editor.Spread
import VarsAdvisor.Proofs.Floor.Abort

/-!
# Passes with overlays of their own

A validation opens its document on a new surface and hands the overlay to its pass, so each pass has
an overlay of its own, and a later pass has a later overlay (`Floor.OwnOverlays`). A document may get
another overlay, or lose it, while a pass over it is under way; the pass goes on with the overlay
that it was given. As passes over one document take turns, the overlay that the document has then is
blank until the pass has ended (`OwnOverlays.isBlank_of_newer`).
-/

namespace VarsAdvisor.Floor

variable {σ : Type} {c : Collaborators σ} {crew : Crew} {f f' : Floor σ}

/-! ## Passes that have started -/

/-- Unless a pass starts, passes stay what they are, and a pass that has ended stays at its end. -/
theorem Happens.before (h : Happens c crew f f') (hlength : f'.jobs.length = f.jobs.length)
    {pass : Nat} {job : Job} {later : Stage} (hat : f'.jobs[pass]? = some (job, later)) :
    ∃ stage, f.jobs[pass]? = some (job, stage) ∧ (stage.lock? = none → later = stage) := by
  cases h.arrives hat with
  | stays hold => exact ⟨later, hold, fun _ => rfl⟩
  | starts hnew lock =>
    have hlt := (List.getElem?_eq_some_iff.1 hat).1
    rw [List.getElem?_eq_none_iff] at hnew
    omega
  | begins hold heditor => exact ⟨_, hold, fun h => by cases h⟩
  | goesOn hold hscript hscript' hleads heditor =>
    refine ⟨_, hold, fun h => ?_⟩
    obtain ⟨lock, hlock⟩ := Stage.exists_lock? (Stage.isInside_of_script? hscript)
    rw [hlock] at h
    cases h
  | ends hold hlock ending s heq =>
    refine ⟨_, hold, fun h => ?_⟩
    rw [hlock] at h
    cases h

theorem Happens.stays_ended (h : Happens c crew f f') (hlength : f'.jobs.length = f.jobs.length)
    {pass : Nat} {job : Job} {ending : Ending PassReport}
    (hat : f.jobs[pass]? = some (job, .ended ending)) :
    f'.jobs[pass]? = some (job, .ended ending) := by
  obtain ⟨later, hlater, -⟩ := h.keeps hat
  obtain ⟨stage, hstage, hended⟩ := h.before hlength hlater
  cases hat.symm.trans hstage
  rw [hlater, hended rfl]

theorem length_proceed (f : Floor σ) (pass : Nat) (job : Job) (lock : LockId)
    (progress : Progress Evidence) :
    (f.proceed pass job lock progress).jobs.length = f.jobs.length := by
  cases progress with
  | more rest => exact length_setStage f pass _
  | ended ending => exact length_setStage _ pass _
  | stuck request => exact length_setStage f pass _

theorem length_advance (c : Collaborators σ) (crew : Crew) (f : Floor σ) (pass : Nat) :
    (f.advance c crew pass).jobs.length = f.jobs.length := by
  unfold advance
  split
  · unfold takeUp
    split
    · exact length_setStage _ pass _
    · rfl
  · exact length_proceed _ pass _ _ _
  · rfl

theorem length_cancel (f : Floor σ) (pass : Nat) :
    (f.cancel pass).jobs.length = f.jobs.length := by
  unfold cancel
  split
  · exact length_setStage _ pass _
  · exact length_proceed f pass _ _ _
  · exact length_proceed f pass _ _ _
  · rfl

/-- A pass that becomes done was at work. It annotates its overlay, and reports what it finds there. -/
theorem Happens.becomes_done (h : Happens c crew f f') {pass : Nat} {job : Job} {stage : Stage}
    {report : PassReport} (hat : f.jobs[pass]? = some (job, stage)) (halive : stage.lock? ≠ none)
    (hdone : f'.jobs[pass]? = some (job, .ended (.done report))) :
    stage.isInside = true ∧ ∃ evidence : Evidence,
      f'.editor = f.editor.annotateAll job.overlay evidence.annotations ∧
      report = f'.editor.reportOn job.overlay job.assignment evidence := by
  generalize hending : Ending.done report = ending at hdone
  cases h.arrives hdone with
  | stays hold =>
    cases hat.symm.trans hold
    exact absurd rfl halive
  | goesOn hold hscript hscript' hleads heditor => cases hscript'
  | ends hold hlock ending s heq hinLine =>
    cases hat.symm.trans hold
    cases ending with
    | done evidence =>
      injection hending with hreport
      refine ⟨?_, evidence, congrArg Floor.editor heq, ?_⟩
      · cases hinside : stage.isInside with
        | true => rfl
        | false => cases hinLine hinside
      · rw [heq]
        exact hreport
    | failed fault => cases hending
    | cancelled => cases hending

theorem Obedient.start (hf : f.Obedient) (job : Job) : (f.start job).Obedient := by
  intro pass job' stage script hat hscript
  obtain hold | ⟨-, -, rfl⟩ := getElem?_start hat
  · exact hf hold hscript
  · cases hscript

/-! ## What becomes of overlays -/

theorem Happens.length_overlays (h : Happens c crew f f') :
    f'.editor.overlays.length = f.editor.overlays.length := by
  rcases h.editor with hsame | ⟨pass, job, stage, -, -, hclear⟩ |
    ⟨pass, job, stage, report, as, -, -, -, has⟩
  · rw [hsame]
  · rw [hclear, Editor.length_clear]
  · rw [has, Editor.length_annotateAll]

/-- A move leaves overlays where they are. -/
theorem Happens.bare_surfaceOf (h : Happens c crew f f') (id : OverlayId) :
    (f'.editor.surfaceOf id).bare = (f.editor.surfaceOf id).bare := by
  rcases h.editor with hsame | ⟨pass, job, stage, -, -, hclear⟩ |
    ⟨pass, job, stage, report, as, -, -, -, has⟩
  · rw [hsame]
  · rw [hclear]
    exact Editor.bare_surfaceOf (Editor.surface_clear _ _ id) (Editor.bare_clear _ _)
  · rw [has]
    exact Editor.bare_surfaceOf (Editor.surface_annotateAll _ _ as id)
      (Editor.bare_annotateAll _ _ as)

/-- A move leaves every document its overlay. -/
theorem Happens.overlayOf? (h : Happens c crew f f') (key : String) :
    f'.editor.overlayOf? key = f.editor.overlayOf? key := by
  rcases h.editor with hsame | ⟨pass, job, stage, -, -, hclear⟩ |
    ⟨pass, job, stage, report, as, -, -, -, has⟩
  · rw [hsame]
  · rw [hclear, Editor.overlayOf?_clear]
  · rw [has, Editor.overlayOf?_annotateAll]

/-! ## The invariant -/

/-- No pass that is done has this overlay. -/
def Unfilled (f : Floor σ) (id : OverlayId) : Prop :=
  ∀ (pass : Nat) (job : Job) (report : PassReport),
    f.jobs[pass]? = some (job, .ended (.done report)) → job.overlay ≠ id

/-- Each pass has an overlay of its own, and a later pass has a later one. The overlay of a document
is never earlier than those of the passes over it, and if it is that of a pass, the pass is over
this document. Only passes that are done have annotated their overlays, and no pass is done before
an earlier one over the same document has ended. -/
structure OwnOverlays (f : Floor σ) : Prop where
  orderly : f.Orderly
  obedient : f.Obedient
  spread : f.editor.Spread
  inUse : ∀ {pass : Nat} {job : Job} {stage : Stage}, f.jobs[pass]? = some (job, stage) →
    job.overlay < f.editor.overlays.length
  increasing : ∀ {pass pass' : Nat} {job job' : Job} {stage stage' : Stage},
    f.jobs[pass]? = some (job, stage) → f.jobs[pass']? = some (job', stage') → pass < pass' →
      job.overlay < job'.overlay
  latest : ∀ {pass : Nat} {job : Job} {stage : Stage} {id : OverlayId},
    f.jobs[pass]? = some (job, stage) → f.editor.overlayOf? job.key = some id → job.overlay ≤ id
  own : ∀ {pass : Nat} {job : Job} {stage : Stage} {key : String},
    f.jobs[pass]? = some (job, stage) → f.editor.overlayOf? key = some job.overlay → job.key = key
  blank : ∀ {id : OverlayId}, f.Unfilled id → (f.editor.overlay id).IsBlank
  inTurn : ∀ {pass pass' : Nat} {job job' : Job} {stage : Stage} {report : PassReport},
    f.jobs[pass]? = some (job, stage) → f.jobs[pass']? = some (job', .ended (.done report)) →
      job.key = job'.key → pass < pass' → stage.lock? = none

namespace OwnOverlays

theorem begin (s : σ) : (begin Editor.empty s).OwnOverlays := by
  refine ⟨.begin _ _, obedient_begin _ _, .empty, ?_, ?_, ?_, ?_, fun _ => ⟨rfl, rfl⟩, ?_⟩
  all_goals
    intros
    contradiction

/-- The overlay that a document has instead of that of its pass is blank until the pass has ended.
-/
theorem isBlank_of_newer (h : f.OwnOverlays) {pass : Nat} {job : Job} {stage : Stage}
    {id : OverlayId} (hat : f.jobs[pass]? = some (job, stage)) (halive : stage.lock? ≠ none)
    (hid : f.editor.overlayOf? job.key = some id) : (f.editor.overlay id).IsBlank := by
  refine h.blank fun pass' job' report hdone hsame => ?_
  have hkey : job'.key = job.key := h.own hdone (hsame ▸ hid)
  have hle : job.overlay ≤ job'.overlay := hsame ▸ h.latest hat hid
  rcases Nat.lt_trichotomy pass pass' with hlt | rfl | hgt
  · exact halive (h.inTurn hat hdone hkey.symm hlt)
  · rw [hat] at hdone
    cases hdone
    exact halive rfl
  · exact absurd (h.increasing hdone hat hgt) (Nat.not_lt.2 hle)

/-! ### Passes go on -/

theorem spread_happens (hf : f.OwnOverlays) (h : Happens c crew f f')
    (hlength : f'.jobs.length = f.jobs.length) : f'.editor.Spread := by
  rcases h.editor with hsame | ⟨pass, job, stage, hat, -, hclear⟩ |
    ⟨pass, job, stage, report, as, hat, -, -, has⟩
  · rw [hsame]
    exact hf.spread
  · obtain ⟨_, hold, -⟩ := h.before hlength hat
    rw [hclear]
    exact hf.spread.clear (hf.inUse hold)
  · rw [has]
    exact hf.spread.annotateAll (hf.inUse hat) as

theorem blank_happens (hf : f.OwnOverlays) (h : Happens c crew f f')
    (hlength : f'.jobs.length = f.jobs.length) {id : OverlayId} (hid : f'.Unfilled id) :
    (f'.editor.overlay id).IsBlank := by
  have hold : (f.editor.overlay id).IsBlank :=
    hf.blank fun pass job report hdone => hid pass job report (h.stays_ended hlength hdone)
  rcases h.editor with hsame | ⟨pass, job, stage, -, -, hclear⟩ |
    ⟨pass, job, stage, report, as, -, -, hdone, has⟩
  · rwa [hsame]
  · rw [hclear]
    by_cases hown : id = job.overlay
    · rw [hown]
      exact Editor.isBlank_clear _ _
    · rwa [Editor.overlay_clear_ne hown]
  · rwa [has, Editor.overlay_annotateAll_ne (hid pass job report hdone).symm]

/-- A pass becomes done only when it is first in line for its document, so no earlier one is left. -/
theorem inTurn_happens (hf : f.OwnOverlays) (h : Happens c crew f f')
    (hlength : f'.jobs.length = f.jobs.length) {pass pass' : Nat} {job job' : Job} {later : Stage}
    {report : PassReport} (hat : f'.jobs[pass]? = some (job, later))
    (hdone : f'.jobs[pass']? = some (job', .ended (.done report))) (hkey : job.key = job'.key)
    (hlt : pass < pass') : later.lock? = none := by
  obtain ⟨stage, hstage, hended⟩ := h.before hlength hat
  obtain ⟨stage', hstage', hended'⟩ := h.before hlength hdone
  have hover : stage.lock? = none := by
    by_cases halive : stage'.lock? = none
    · rw [← hended' halive] at hstage'
      exact hf.inTurn hstage hstage' hkey hlt
    · obtain ⟨hinside, -⟩ := h.becomes_done hstage' halive hdone
      by_contra hlock
      obtain ⟨lock, hlock⟩ := Option.ne_none_iff_exists'.1 hlock
      have hfirst := hf.orderly.first hstage' hinside
      have huser : pass ∈ f.usersOf job'.key :=
        mem_usersOf.2 (uses_iff.2 ⟨job, stage, lock, hstage, hkey, hlock⟩)
      exact absurd hlt (Nat.not_lt.2 (le_of_head?_usersOf hfirst huser))
  rw [hended hover]
  exact hover

/-- Passes keep their overlays to themselves while they go on or end. -/
theorem happens (hf : f.OwnOverlays) (h : Happens c crew f f')
    (hlength : f'.jobs.length = f.jobs.length) : f'.OwnOverlays := by
  have hbefore : ∀ {pass : Nat} {job : Job} {later : Stage},
      f'.jobs[pass]? = some (job, later) → ∃ stage, f.jobs[pass]? = some (job, stage) :=
    fun hat => (h.before hlength hat).imp fun _ hstage => hstage.1
  refine ⟨hf.orderly.happens h, h.obedient hf.obedient, hf.spread_happens h hlength, ?_, ?_, ?_, ?_,
    hf.blank_happens h hlength, hf.inTurn_happens h hlength⟩
  · intro pass job later hat
    obtain ⟨stage, hold⟩ := hbefore hat
    rw [h.length_overlays]
    exact hf.inUse hold
  · intro pass pass' job job' later later' hat hat' hlt
    obtain ⟨stage, hold⟩ := hbefore hat
    obtain ⟨stage', hold'⟩ := hbefore hat'
    exact hf.increasing hold hold' hlt
  · intro pass job later id hat hid
    obtain ⟨stage, hold⟩ := hbefore hat
    rw [h.overlayOf?] at hid
    exact hf.latest hold hid
  · intro pass job later key hat hid
    obtain ⟨stage, hold⟩ := hbefore hat
    rw [h.overlayOf?] at hid
    exact hf.own hold hid

/-- What a pass reports when it becomes done: the annotations of its overlay, by line. If its
document has this overlay still, the surface shows a marker for each of them; if it has another one,
nothing is shown there. -/
theorem reports (hf : f.OwnOverlays) (h : Happens c crew f f')
    (hlength : f'.jobs.length = f.jobs.length) {pass : Nat} {job : Job} {stage : Stage}
    {report : PassReport} (hat : f.jobs[pass]? = some (job, stage)) (halive : stage.lock? ≠ none)
    (hdone : f'.jobs[pass]? = some (job, .ended (.done report))) :
    report.document = job.assignment.document ∧ report.annotations.Pairwise (·.line < ·.line) ∧
      (∀ a ∈ report.annotations, (f'.editor.surfaceOf job.overlay).hasLine a.line = true) ∧
      ∀ id, f'.editor.overlayOf? job.key = some id → (f'.editor.surfaceOf id).shown =
        if id = job.overlay then
          report.annotations.map (Editor.markerFor (f'.editor.surfaceOf job.overlay)) else [] := by
  have hf' := hf.happens h hlength
  obtain ⟨-, evidence, hannotated, rfl⟩ := h.becomes_done hat halive hdone
  have hwf := hf'.spread.balanced.tidy.wf job.overlay
  refine ⟨rfl, hwf.sorted_lt, ?_, ?_⟩
  · intro a ha
    exact hf'.spread.balanced.line ((hwf.mem_sorted a).1 ha)
  · intro id hid
    rw [hf'.spread.shown (hf'.spread.inUse hid)]
    split
    · next hsame =>
      rw [hsame]
      rfl
    · next hne =>
      rw [h.overlayOf?] at hid
      have hblank : (f'.editor.overlay id).IsBlank := by
        rw [hannotated, Editor.overlay_annotateAll_ne hne]
        exact hf.isBlank_of_newer hat halive hid
      rw [Overlay.sorted, hblank.1, List.map_nil, List.mergeSort_nil, List.map_nil]

/-! ### Documents are opened and closed -/

/-- So it stays while documents get new overlays or lose theirs, if blank overlays stay blank. -/
theorem edit (hf : f.OwnOverlays) {e : Editor} (hspread : e.Spread)
    (hlength : f.editor.overlays.length ≤ e.overlays.length)
    (hlookup : ∀ {key : String} {id : OverlayId}, e.overlayOf? key = some id →
      f.editor.overlayOf? key = some id ∨ f.editor.overlays.length ≤ id)
    (hblank : ∀ {id : OverlayId}, (f.editor.overlay id).IsBlank → (e.overlay id).IsBlank) :
    ({ f with editor := e } : Floor σ).OwnOverlays := by
  refine ⟨hf.orderly.congr rfl rfl, hf.obedient, hspread, ?_, hf.increasing, ?_, ?_, ?_, hf.inTurn⟩
  · intro pass job stage hat
    exact Nat.lt_of_lt_of_le (hf.inUse hat) hlength
  · intro pass job stage id hat hid
    rcases hlookup hid with hold | hnew
    · exact hf.latest hat hold
    · exact Nat.le_of_lt (Nat.lt_of_lt_of_le (hf.inUse hat) hnew)
  · intro pass job stage key hat hid
    rcases hlookup hid with hold | hnew
    · exact hf.own hat hold
    · exact absurd (hf.inUse hat) (Nat.not_lt.2 hnew)
  · intro id hid
    exact hblank (hf.blank hid)

theorem present (hf : f.OwnOverlays) (document : String) (lines : List String) :
    ({ f with editor := (f.editor.present document lines).1 } : Floor σ).OwnOverlays := by
  refine hf.edit (hf.spread.present document lines) ?_ ?_ ?_
  · rw [hf.spread.length_present]
    exact Nat.le_succ _
  · intro key id hid
    rw [hf.spread.overlayOf?_present] at hid
    split at hid
    · exact .inr (Nat.le_of_eq (Option.some.inj hid))
    · exact .inl hid
  · intro id hid
    exact hf.spread.isBlank_present document lines hid

theorem closeDocument (hf : f.OwnOverlays) (document : String) :
    ({ f with editor := (f.editor.closeDocument document).1 } : Floor σ).OwnOverlays := by
  refine hf.edit (hf.spread.closeDocument document) ?_ ?_ ?_
  · rw [Editor.closeDocument_eq]
    exact Nat.le_of_eq (Editor.length_vacate _ _).symm
  · intro key id hid
    rw [Editor.overlayOf?_closeDocument] at hid
    split at hid
    · cases hid
    · exact .inl hid
  · intro id hid
    rw [Editor.closeDocument_eq]
    exact Editor.isBlank_vacate_of_isBlank document hid

/-- A pass starts over a document that has got a new overlay for it. -/
theorem start (hf : f.OwnOverlays) (job : Job) (hnew : job.overlay < f.editor.overlays.length)
    (hlater : ∀ {pass : Nat} {job' : Job} {stage : Stage}, f.jobs[pass]? = some (job', stage) →
      job'.overlay < job.overlay)
    (hlookup : ∀ {key : String} {id : OverlayId}, f.editor.overlayOf? key = some id →
      if job.key = key then id = job.overlay else id ≠ job.overlay) :
    (f.start job).OwnOverlays := by
  refine ⟨hf.orderly.start job, hf.obedient.start job, hf.spread, ?_, ?_, ?_, ?_,
    ?_, ?_⟩
  · intro pass job' stage hat
    obtain hold | ⟨-, rfl, -⟩ := getElem?_start hat
    · exact hf.inUse hold
    · exact hnew
  · intro pass pass' job' job'' stage stage' hat hat' hlt
    obtain hold | ⟨rfl, rfl, -⟩ := getElem?_start hat
    · obtain hold' | ⟨-, rfl, -⟩ := getElem?_start hat'
      · exact hf.increasing hold hold' hlt
      · exact hlater hold
    · obtain hold' | ⟨rfl, -⟩ := getElem?_start hat'
      · exact absurd (List.getElem?_eq_some_iff.1 hold').1 (Nat.lt_asymm hlt)
      · exact absurd hlt (Nat.lt_irrefl _)
  · intro pass job' stage id hat hid
    obtain hold | ⟨-, rfl, -⟩ := getElem?_start hat
    · exact hf.latest hold hid
    · have hsame := hlookup hid
      rw [if_pos rfl] at hsame
      exact Nat.le_of_eq hsame.symm
  · intro pass job' stage key hat hid
    obtain hold | ⟨-, rfl, -⟩ := getElem?_start hat
    · exact hf.own hold hid
    · by_contra hne
      have hother := hlookup hid
      rw [if_neg hne] at hother
      exact hother rfl
  · intro id hid
    refine hf.blank fun pass job' report hdone => hid pass job' report ?_
    exact (List.getElem?_append_left (List.getElem?_eq_some_iff.1 hdone).1).trans hdone
  · intro pass pass' job' job'' stage report hat hdone hkey hlt
    obtain hdone | ⟨rfl, -, hstage⟩ := getElem?_start hdone
    · obtain hold | ⟨rfl, -⟩ := getElem?_start hat
      · exact hf.inTurn hold hdone hkey hlt
      · exact absurd (List.getElem?_eq_some_iff.1 hdone).1 (Nat.lt_asymm hlt)
    · cases hstage

/-- A document is opened on a new surface, and a pass starts over it. -/
theorem startOn (hf : f.OwnOverlays) (document : String) (lines : List String) {job : Job}
    (hkey : job.key = document) (hoverlay : job.overlay = (f.editor.present document lines).2) :
    (({ f with editor := (f.editor.present document lines).1 } : Floor σ).start job).OwnOverlays := by
  have hnew : job.overlay = f.editor.overlays.length := by
    rw [hoverlay, hf.spread.placed.present_eq]
  refine (hf.present document lines).start job ?_ ?_ ?_
  · rw [hf.spread.length_present, hnew]
    exact Nat.lt_succ_self _
  · intro pass job' stage hat
    rw [hnew]
    exact hf.inUse hat
  · intro key id hid
    rw [hf.spread.overlayOf?_present] at hid
    rw [hkey, hnew]
    split
    · next hsame =>
      rw [if_pos hsame] at hid
      exact (Option.some.inj hid).symm
    · next hne =>
      rw [if_neg hne] at hid
      exact Nat.ne_of_lt (hf.spread.inUse hid)

end OwnOverlays

end VarsAdvisor.Floor

import Mathlib.Data.List.Induction
import VarsAdvisor.Proofs.Editor.Markers
import VarsAdvisor.Proofs.Floor.Exclusion
import VarsAdvisor.Proofs.Pass.Script

/-!
# Passes that do not finish

A pass annotates only when it ends with evidence, and nothing can break it off after that. So from
its beginning until then its overlay is blank, unless another pass is at work on the same overlay
(`SoleWriter`): whatever breaks it off finds the overlay blank and leaves it so. A pass that is
still in line leaves the editor as it is.
-/

namespace VarsAdvisor.Floor

variable {σ : Type} {c : Collaborators σ} {crew : Crew} {f f' : Floor σ}

theorem moves_concat (c : Collaborators σ) (crew : Crew) (f : Floor σ) (ms : List Move) (m : Move) :
    f.moves c crew (ms ++ [m]) = (f.moves c crew ms).move c crew m :=
  List.foldl_concat _ _ _ _

theorem moves_append (c : Collaborators σ) (crew : Crew) (f : Floor σ) (ms ms' : List Move) :
    f.moves c crew (ms ++ ms') = (f.moves c crew ms).moves c crew ms' :=
  List.foldl_append

/-! ## Cancellation -/

/-- All work under way keeps to the rules of a pass. -/
def Obedient (f : Floor σ) : Prop :=
  ∀ ⦃pass : Nat⦄ ⦃job : Job⦄ ⦃stage : Stage⦄ ⦃script : Script Evidence⦄,
    f.jobs[pass]? = some (job, stage) → stage.script? = some script →
      ∃ plan asks, script.Obeys plan asks

theorem obedient_begin (e : Editor) (s : σ) : (begin e s).Obedient := by
  intro pass job stage script hat
  cases hat

theorem Happens.obedient (h : Happens c crew f f') (hf : f.Obedient) : f'.Obedient := by
  intro pass job stage script hat hscript
  cases h.arrives hat with
  | stays hat => exact hf hat hscript
  | starts hnew lock => cases hscript
  | begins hat heditor =>
    rw [← Option.some.inj hscript]
    exact ⟨_, _, crew.obeys_gather _ _⟩
  | goesOn hat hold hnew hleads heditor =>
    cases hnew.symm.trans hscript
    exact hleads.obeys (hf hat hold)
  | ends hat hlock ending s heq => cases hscript

theorem Obedient.moves (hf : f.Obedient) (c : Collaborators σ) (crew : Crew) (ms : List Move) :
    (f.moves c crew ms).Obedient := by
  induction ms generalizing f with
  | nil => exact hf
  | cons m ms ih => exact ih ((happens_move c crew f m).obedient hf)

/-- Cancelling a pass that has not ended ends it as cancelled. -/
theorem getElem?_cancel (hf : f.Obedient) {pass : Nat} {job : Job} {stage : Stage}
    (hat : f.jobs[pass]? = some (job, stage)) (halive : stage.lock? ≠ none) :
    (f.cancel pass).jobs[pass]? = some (job, .ended .cancelled) := by
  unfold cancel
  rw [hat]
  cases stage with
  | inLine lock => exact getElem?_finish_self hat lock .cancelled
  | working lock script =>
    obtain ⟨plan, asks, hobeys⟩ := hf hat rfl
    dsimp only
    rw [Script.interrupt_of_obeys hobeys]
    exact getElem?_finish_self hat lock .cancelled
  | stuck lock script =>
    obtain ⟨plan, asks, hobeys⟩ := hf hat rfl
    dsimp only
    rw [Script.interrupt_of_obeys hobeys]
    exact getElem?_finish_self hat lock .cancelled
  | ended ending => exact absurd rfl halive

/-- What breaks the work at its request: a tool's failure to give any result, or what is more than
an error of the model. -/
def breaksAt (c : Collaborators σ) (s : σ) : Script Evidence → Option Break
  | .tool argv _ => match (c.tool argv s).1 with
    | .crash b => some b
    | _ => none
  | .model prompt _ => match (c.model prompt s).1 with
    | .crash b => if b.isError then none else some b
    | _ => none
  | _ => none

theorem breaksAt_tool {s : σ} {argv : List String}
    {next : Except ToolFailure ToolRun → Script Evidence} {b : Break} :
    breaksAt c s (.tool argv next) = some b ↔ (c.tool argv s).1 = .crash b := by
  unfold breaksAt
  dsimp only
  split
  · next b' hcrash => rw [hcrash, Option.some.injEq, Reaction.crash.injEq]
  · next hother =>
    constructor
    · intro h
      cases h
    · intro h
      exact absurd h (hother b)

theorem breaksAt_model {s : σ} {prompt : Suggestion.Prompt}
    {next : Except Break Suggestion.Completion → Script Evidence} {b : Break} :
    breaksAt c s (.model prompt next) = some b ↔
      (c.model prompt s).1 = .crash b ∧ b.isError = false := by
  unfold breaksAt
  dsimp only
  split
  · next b' hcrash =>
    rw [hcrash, Reaction.crash.injEq]
    cases hb : b'.isError <;> grind
  · next hother =>
    constructor
    · intro h
      cases h
    · intro h
      exact absurd h.1 (hother b)

theorem conclude_ofBreak (e : Editor) (overlay : OverlayId) (a : Assignment) (b : Break) :
    e.conclude overlay a (.ofBreak b) = (.ofBreak b, e) := by
  cases b <;> rfl

theorem advance_working {pass : Nat} {job : Job} {lock : LockId} {script : Script Evidence}
    (hat : f.jobs[pass]? = some (job, .working lock script)) :
    f.advance c crew pass =
      { f with outside := (script.step c f.outside).2 }.proceed pass job lock
        (script.step c f.outside).1 := by
  unfold advance
  rw [hat]
  rfl

theorem advance_ended {pass : Nat} {job : Job} {ending : Ending PassReport}
    (hat : f.jobs[pass]? = some (job, .ended ending)) : f.advance c crew pass = f := by
  unfold advance
  rw [hat]

/-- Work that is over because of a break ends its pass so. -/
theorem getElem?_finish_ofBreak {pass : Nat} {job : Job} {stage : Stage}
    (hat : f.jobs[pass]? = some (job, stage)) (lock : LockId) (b : Break) :
    (f.finish pass job lock (.ofBreak b)).jobs[pass]? = some (job, .ended (.ofBreak b)) := by
  rw [getElem?_finish_self hat, conclude_ofBreak]

/-- What breaks a pass at its request ends it, at once or at its next step. -/
theorem getElem?_advance_of_breaksAt (hf : f.Obedient) {pass : Nat} {job : Job} {lock : LockId}
    {script : Script Evidence} (hat : f.jobs[pass]? = some (job, .working lock script)) {b : Break}
    (hbreak : breaksAt c f.outside script = some b) :
    (f.moves c crew [.advance pass, .advance pass]).jobs[pass]? =
      some (job, .ended (.ofBreak b)) := by
  show ((f.advance c crew pass).advance c crew pass).jobs[pass]? = _
  rw [advance_working hat]
  cases script with
  | tool argv next =>
    obtain ⟨s, hasked⟩ : ∃ s, c.tool argv f.outside = (.crash b, s) :=
      ⟨_, Prod.ext (breaksAt_tool.1 hbreak) rfl⟩
    have hended := getElem?_finish_ofBreak (f := { f with outside := s }) hat lock b
    simp only [Script.step, hasked, proceed_ended]
    rw [advance_ended hended, hended]
  | model prompt next =>
    obtain ⟨hcrash, hb⟩ := breaksAt_model.1 hbreak
    obtain ⟨s, hasked⟩ : ∃ s, c.model prompt f.outside = (.crash b, s) :=
      ⟨_, Prod.ext hcrash rfl⟩
    have hpasses : next (.error b) = .ofBreak b := by
      obtain ⟨plan, asks, hobeys⟩ := hf hat rfl
      cases hobeys with
      | model hpass hnext => exact hpass b hb
    have hset := getElem?_setStage_self (f := { f with outside := s }) hat
      (.working lock (.ofBreak b))
    simp only [Script.step, hasked, hpasses, proceed_more]
    rw [advance_working hset, Script.step_ofBreak, proceed_ended]
    exact getElem?_finish_ofBreak hset lock b
  | _ => cases hbreak

/-! ## Markers -/

theorem Happens.tidy (h : Happens c crew f f') (hf : f.editor.Tidy) : f'.editor.Tidy := by
  rcases h.editor with hsame | ⟨pass, job, stage, -, -, hclear⟩ |
    ⟨pass, job, stage, report, as, -, -, -, has⟩
  · rwa [hsame]
  · rw [hclear]
    exact hf.clear _
  · rw [has]
    exact hf.annotateAll _ _

theorem tidy_moves (hf : f.editor.Tidy) (c : Collaborators σ) (crew : Crew) (ms : List Move) :
    (f.moves c crew ms).editor.Tidy := by
  induction ms generalizing f with
  | nil => exact hf
  | cons m ms ih => exact ih ((happens_move c crew f m).tidy hf)

/-- A handle that an overlay holds is still held later on, or its marker is gone. -/
theorem accounts_moves (hf : f.editor.Tidy) {id : OverlayId} {h : Handle}
    (hacc : f.editor.Accounts id h) (c : Collaborators σ) (crew : Crew) (ms : List Move) :
    (f.moves c crew ms).editor.Accounts id h := by
  induction ms generalizing f with
  | nil => exact hacc
  | cons m ms ih =>
    have hstep := happens_move c crew f m
    refine ih (hstep.tidy hf) ?_
    rcases hstep.editor with hsame | ⟨pass, job, stage, -, -, hclear⟩ |
      ⟨pass, job, stage, report, as, -, -, -, has⟩
    · rwa [hsame]
    · rw [hclear]
      exact hacc.clear hf _
    · rw [has]
      exact hacc.annotateAll hf _ _

/-! ## The overlay of a pass at work -/

/-- While the pass is at work, no other one is at work on its overlay. -/
def SoleWriter (f : Floor σ) (pass : Nat) : Prop :=
  ∀ ⦃job job' : Job⦄ ⦃stage stage' : Stage⦄ ⦃other : Nat⦄, f.jobs[pass]? = some (job, stage) →
    stage.isInside = true → f.jobs[other]? = some (job', stage') → stage'.isInside = true →
      job'.overlay = job.overlay → other = pass

/-- So it is all along the way. -/
def SoleWriterAlong (c : Collaborators σ) (crew : Crew) (f : Floor σ) (ms : List Move)
    (pass : Nat) : Prop :=
  ∀ before, before <+: ms → (f.moves c crew before).SoleWriter pass

/-- If the pass is at work, its overlay is blank. -/
def HasBlank (f : Floor σ) (pass : Nat) : Prop :=
  ∀ ⦃job : Job⦄ ⦃stage : Stage⦄, f.jobs[pass]? = some (job, stage) → stage.isInside = true →
    (f.editor.overlay job.overlay).IsBlank

theorem Happens.hasBlank (h : Happens c crew f f') {pass : Nat} (hsole : f.SoleWriter pass)
    (hblank : f.HasBlank pass) : f'.HasBlank pass := by
  intro job stage hat hinside
  cases h.arrives hat with
  | stays hold =>
    have hold' := hblank hold hinside
    rcases h.editor with hsame | ⟨other, job', stage', -, -, hclear⟩ |
      ⟨other, job', stage', report, as, hat', hinside', hended, has⟩
    · rwa [hsame]
    · rw [hclear]
      by_cases hsame : job.overlay = job'.overlay
      · rw [hsame]
        exact Editor.isBlank_clear _ _
      · rwa [Editor.overlay_clear_ne hsame]
    · -- Whoever annotates has ended, so it is another pass, and on another overlay.
      have hne : job.overlay ≠ job'.overlay := by
        intro hsame
        cases hsole hold hinside hat' hinside' hsame.symm
        rw [hat] at hended
        cases hended
        cases hinside
      rwa [has, Editor.overlay_annotateAll_ne hne]
  | starts hnew lock => cases hinside
  | begins hold heditor =>
    rw [heditor]
    exact Editor.isBlank_clear _ _
  | goesOn hold hscript hscript' hleads heditor =>
    rw [heditor]
    exact hblank hold (Stage.isInside_of_script? hscript)
  | ends hold hlock ending s heq => cases hinside

theorem hasBlank_moves (e : Editor) (s : σ) {ms : List Move} {pass : Nat}
    (hsole : SoleWriterAlong c crew (begin e s) ms pass) :
    ((begin e s).moves c crew ms).HasBlank pass := by
  induction ms using List.reverseRecOn with
  | nil =>
    intro job stage hat
    cases hat
  | append_singleton ms m ih =>
    rw [moves_concat]
    have hbefore : SoleWriterAlong c crew (begin e s) ms pass :=
      fun before hpart => hsole before (hpart.trans (List.prefix_append _ _))
    exact (happens_move c crew _ m).hasBlank (hsole ms (List.prefix_append _ _)) (ih hbefore)

/-! ## The end of a pass -/

theorem conclude_of_not_done {e : Editor} {overlay : OverlayId} {a : Assignment}
    {ending : Ending Evidence} (h : (e.conclude overlay a ending).1.isDone = false) :
    (e.conclude overlay a ending).2 = e := by
  cases ending with
  | done evidence => cases h
  | failed fault => rfl
  | cancelled => rfl

/-- A pass that ends without a report changes nothing that is shown, and gives back its share of the
count. -/
theorem Happens.aborted (h : Happens c crew f f') (hf : f.Orderly) {pass : Nat} {job : Job}
    {stage : Stage} (hat : f.jobs[pass]? = some (job, stage)) (halive : stage.lock? ≠ none)
    {ending : Ending PassReport} (hended : f'.jobs[pass]? = some (job, .ended ending))
    (hdone : ending.isDone = false) :
    f'.editor = f.editor ∧ f'.locks.userCount job.key + 1 = f.locks.userCount job.key := by
  cases h.arrives hended with
  | stays hold =>
    rw [hat] at hold
    cases hold
    exact absurd rfl halive
  | goesOn hold hscript hscript' hleads heditor => cases hscript'
  | @ends stage' lock hold hlock ending' s heq =>
    have hsame : ({ f with outside := s } : Floor σ).Orderly := hf.congr rfl rfl
    have hafter : f'.Orderly := heq ▸ hsame.finish hold hlock ending'
    refine ⟨?_, ?_⟩
    · rw [heq]
      exact conclude_of_not_done hdone
    · have hmem : pass ∈ f.usersOf job.key :=
        mem_usersOf.2 (uses_iff.2 ⟨job, stage', lock, hold, rfl, hlock⟩)
      have husers : f'.usersOf job.key = (f.usersOf job.key).filter (· != pass) := by
        rw [heq, usersOf_finish (f := { f with outside := s }) hold]
        exact if_pos rfl
      rw [hafter.serves.userCount_eq, hf.serves.userCount_eq, husers,
        ← (nodup_usersOf f job.key).erase_eq_filter, List.length_erase_of_mem hmem]
      exact Nat.succ_pred_eq_of_pos (List.length_pos_of_mem hmem)

/-- **A pass that does not finish leaves nothing.** Whatever has happened so far, take any pass that
has not ended. If it is cancelled, it ends as cancelled; if its request is broken by what it must
not handle, it ends as that says. While it is at work, and no other pass is on the same overlay, its
overlay is blank. And whatever it is that ends it without a report: if it was at work, its overlay
is blank and (in an editor that was tidy at first) no marker that the overlay has ever held is left
on a surface; if it was in line, the editor is as it was. Its share of the count is given back, and
if no other pass uses the document, neither a lock nor a count is left for it. -/
theorem aborted_pass_leaves_nothing (c : Collaborators σ) (crew : Crew) (e : Editor) (s : σ)
    (ms : List Move) {pass : Nat} {job : Job} {stage : Stage}
    (hat : ((begin e s).moves c crew ms).jobs[pass]? = some (job, stage))
    (halive : stage.lock? ≠ none) :
    let f := (begin e s).moves c crew ms
    (f.cancel pass).jobs[pass]? = some (job, .ended .cancelled) ∧
      (∀ lock script b, stage = .working lock script → breaksAt c f.outside script = some b →
        (f.moves c crew [.advance pass, .advance pass]).jobs[pass]? =
          some (job, .ended (.ofBreak b))) ∧
      (stage.isInside = true → SoleWriterAlong c crew (begin e s) ms pass →
        (f.editor.overlay job.overlay).IsBlank) ∧
      ∀ m ending, (f.move c crew m).jobs[pass]? = some (job, .ended ending) →
        ending.isDone = false →
          let f' := f.move c crew m
          (stage.isInside = true → SoleWriterAlong c crew (begin e s) ms pass →
            (f'.editor.overlay job.overlay).IsBlank ∧
              (e.Tidy → ∀ before, before <+: ms →
                ∀ h ∈ (((begin e s).moves c crew before).editor.overlay job.overlay).held,
                  f'.editor.keeps h = false)) ∧
          (stage.isInside = false → f'.editor = f.editor) ∧
          f'.locks.userCount job.key + 1 = f.locks.userCount job.key ∧
          ((∀ other, f'.uses job.key other = false) →
            f'.locks.locks.get? job.key = none ∧ f'.locks.users.get? job.key = none) := by
  intro f
  have hobedient : f.Obedient := (obedient_begin e s).moves c crew ms
  have horder : f.Orderly := (Orderly.begin e s).moves c crew ms
  have hblank : stage.isInside = true → SoleWriterAlong c crew (begin e s) ms pass →
      (f.editor.overlay job.overlay).IsBlank :=
    fun hinside hsole => hasBlank_moves e s hsole hat hinside
  refine ⟨getElem?_cancel hobedient hat halive, ?_, hblank, ?_⟩
  · rintro lock script b rfl hbreak
    exact getElem?_advance_of_breaksAt hobedient hat hbreak
  intro m ending hended hdone f'
  have hstep : Happens c crew f f' := happens_move c crew f m
  obtain ⟨heditor, hcount⟩ := hstep.aborted horder hat halive hended hdone
  refine ⟨?_, fun _ => heditor, hcount, ?_⟩
  · intro hinside hsole
    rw [heditor]
    have hnow := hblank hinside hsole
    refine ⟨hnow, ?_⟩
    rintro he before ⟨after, rfl⟩ h hheld
    have htidy := tidy_moves (f := begin e s) he c crew before
    have hacc := accounts_moves htidy (.inl hheld) c crew after
    rw [← moves_append] at hacc
    rcases hacc with hstill | ⟨-, hgone⟩
    · rw [Overlay.held, hnow.2] at hstill
      cases hstill
    · exact hgone
  · intro hunused
    have hafter : f'.Orderly := horder.happens hstep
    have hnone : f'.usersOf job.key = [] := by
      rw [List.eq_nil_iff_forall_not_mem]
      intro other hother
      rw [mem_usersOf, hunused other] at hother
      cases hother
    refine ⟨(hafter.serves.get?_eq_none_iff _).2 hnone, ?_⟩
    rw [hafter.serves.count, if_pos hnone]

/-- A pass that is cancelled at its first request, over an overlay with a stale annotation. -/
theorem aborted_pass_leaves_nothing_stale :
    let c : Collaborators Unit := ⟨fun _ s => (.silence, s), fun _ s => (.silence, s)⟩
    let crew : Crew := ⟨"yamale", [], false, .reject, []⟩
    let a : Assignment := ⟨.ofText "v.yml", some (.ofText "s.yml"), ⟨none, none, none, none⟩, none⟩
    let e : Editor :=
      (((Editor.empty.addSurface ⟨["a:", "b:"], [], []⟩).1.addOverlay 0).1.annotate 0
        ⟨2, "stale", ""⟩).1
    let f := (begin e ()).moves c crew [.start ⟨⟨"/", ["ws"]⟩, a, 0⟩, .advance 0]
    (∃ stage, f.jobs[0]? = some (⟨⟨"/", ["ws"]⟩, a, 0⟩, stage) ∧ stage.isInside = true) ∧
      (e.overlay 0).held = [⟨0, 0, false⟩] ∧ e.keeps ⟨0, 0, false⟩ = true ∧
      (f.cancel 0).jobs[0]? = some (⟨⟨"/", ["ws"]⟩, a, 0⟩, .ended .cancelled) ∧
      ((f.cancel 0).editor.overlay 0).IsBlank ∧
      (f.cancel 0).editor.keeps ⟨0, 0, false⟩ = false := by
  intro c crew a e f
  have he : e.Tidy := ((Editor.Tidy.empty.addSurface _ _).addOverlay _).annotate _ _
  have hat : f.jobs[0]? = some (⟨⟨"/", ["ws"]⟩, a, 0⟩,
      .working 0 (crew.work a (e.beginPass 0) 0)) := rfl
  have hsole : SoleWriterAlong c crew (begin e ()) [.start ⟨⟨"/", ["ws"]⟩, a, 0⟩, .advance 0] 0 := by
    rintro before hbefore job job' stage stage' other - - hother - -
    have hlength : ((begin e ()).moves c crew before).jobs.length ≤ 1 := by
      rcases List.prefix_cons_iff.1 hbefore with rfl | ⟨rest, rfl, hrest⟩
      · exact Nat.zero_le _
      rcases List.prefix_cons_iff.1 hrest with rfl | ⟨rest', rfl, hrest'⟩
      · exact Nat.le_refl _
      rw [List.prefix_nil.1 hrest']
      exact Nat.le_refl _
    have hlt := (List.getElem?_eq_some_iff.1 hother).1
    omega
  obtain ⟨hcancel, -, -, hleaves⟩ := aborted_pass_leaves_nothing c crew e ()
    [.start ⟨⟨"/", ["ws"]⟩, a, 0⟩, .advance 0] hat (by simp [Stage.lock?])
  obtain ⟨hblank, -⟩ := hleaves (.cancel 0) .cancelled hcancel rfl
  obtain ⟨hempty, hgone⟩ := hblank rfl hsole
  refine ⟨⟨_, hat, rfl⟩, rfl, rfl, hcancel, hempty, ?_⟩
  exact hgone he [] (List.nil_prefix) ⟨0, 0, false⟩ (List.mem_singleton_self _)

end VarsAdvisor.Floor

import VarsAdvisor.Pass.Floor
import VarsAdvisor.Proofs.Pass.Step

/-!
# What a move can do

A move starts a pass, lets the holder of a lock begin its work, lets a pass at work come to its next
request, or ends a pass; or it does nothing. `Floor.happens_move` puts every move under one of these
cases, with all that is known in it. Seen from a single pass, `Happens.arrives` tells how it came to
the stage that it is at.
-/

namespace VarsAdvisor

/-- The lock that a pass refers to, which it does until it has ended. -/
def Stage.lock? : Stage → Option LockId
  | .inLine lock | .working lock _ | .stuck lock _ => some lock
  | .ended _ => none

/-- The pass is at work, between taking its lock and giving it back. -/
def Stage.isInside : Stage → Bool
  | .working _ _ | .stuck _ _ => true
  | _ => false

/-- The work that a pass inside has left, from the request on that it is making. -/
def Stage.script? : Stage → Option (Script Evidence)
  | .working _ script | .stuck _ script => some script
  | _ => none

theorem Stage.isInside_of_script? {stage : Stage} {script : Script Evidence}
    (h : stage.script? = some script) : stage.isInside = true := by
  cases stage <;> first | rfl | cases h

theorem Stage.exists_lock? {stage : Stage} (h : stage.isInside = true) :
    ∃ lock, stage.lock? = some lock := by
  cases stage <;> first | exact ⟨_, rfl⟩ | cases h

namespace Floor

variable {σ : Type}

/-! ## Stages -/

@[simp] theorem length_setStage (f : Floor σ) (pass : Nat) (stage : Stage) :
    (f.setStage pass stage).jobs.length = f.jobs.length :=
  List.length_modify _ _ _

theorem getElem?_setStage_self {f : Floor σ} {pass : Nat} {job : Job} {stage : Stage}
    (hat : f.jobs[pass]? = some (job, stage)) (later : Stage) :
    (f.setStage pass later).jobs[pass]? = some (job, later) := by
  unfold setStage
  dsimp only
  rw [List.getElem?_modify_eq, hat]
  rfl

theorem getElem?_setStage_ne {pass other : Nat} (h : other ≠ pass) (f : Floor σ) (stage : Stage) :
    (f.setStage pass stage).jobs[other]? = f.jobs[other]? := by
  unfold setStage
  exact List.getElem?_modify_ne _ _ (Ne.symm h)

theorem getElem?_finish_self {f : Floor σ} {pass : Nat} {job : Job} {stage : Stage}
    (hat : f.jobs[pass]? = some (job, stage)) (lock : LockId) (ending : Ending Evidence) :
    (f.finish pass job lock ending).jobs[pass]? =
      some (job, .ended (f.editor.conclude job.overlay job.assignment ending).1) :=
  getElem?_setStage_self (f := { f with
    editor := (f.editor.conclude job.overlay job.assignment ending).2
    locks := f.locks.leave job.key lock pass }) hat _

theorem getElem?_finish_ne {pass other : Nat} (h : other ≠ pass) (f : Floor σ) (job : Job)
    (lock : LockId) (ending : Ending Evidence) :
    (f.finish pass job lock ending).jobs[other]? = f.jobs[other]? :=
  getElem?_setStage_ne h _ _

/-- A stage after a pass has started is an old one, or that of the new pass. -/
theorem getElem?_start {f : Floor σ} {job : Job} {pass : Nat} {job' : Job} {stage : Stage}
    (hat : (f.start job).jobs[pass]? = some (job', stage)) :
    f.jobs[pass]? = some (job', stage) ∨
      (pass = f.jobs.length ∧ job' = job ∧
        stage = .inLine (f.locks.enter job.key f.jobs.length).2) := by
  have hat' : (f.jobs ++ [(job, .inLine (f.locks.enter job.key f.jobs.length).2)])[pass]? =
      some (job', stage) := hat
  rcases Nat.lt_trichotomy pass f.jobs.length with hlt | heq | hgt
  · exact .inl (by rwa [List.getElem?_append_left hlt] at hat')
  · subst heq
    rw [List.getElem?_concat_length] at hat'
    cases hat'
    exact .inr ⟨rfl, rfl, rfl⟩
  · rw [List.getElem?_eq_none (by simp; omega)] at hat'
    cases hat'

theorem ending?_of_ended {f : Floor σ} {pass : Nat} {job : Job} {ending : Ending PassReport}
    (h : f.jobs[pass]? = some (job, .ended ending)) : f.ending? pass = some ending := by
  unfold ending?
  rw [h]

theorem exists_of_ending? {f : Floor σ} {pass : Nat} {ending : Ending PassReport}
    (h : f.ending? pass = some ending) : ∃ job, f.jobs[pass]? = some (job, .ended ending) := by
  unfold ending? at h
  split at h
  · next job ending' hat =>
    cases h
    exact ⟨job, hat⟩
  · cases h

theorem lock?_ne_none {f : Floor σ} {pass : Nat} {job : Job} {stage : Stage}
    (hat : f.jobs[pass]? = some (job, stage)) (h : f.ending? pass = none) :
    stage.lock? ≠ none := by
  cases stage with
  | inLine lock => exact Option.some_ne_none lock
  | working lock rest => exact Option.some_ne_none lock
  | stuck lock request => exact Option.some_ne_none lock
  | ended ending =>
    rw [ending?_of_ended hat] at h
    cases h

/-! ## Moves -/

theorem proceed_more (f : Floor σ) (pass : Nat) (job : Job) (lock : LockId)
    (rest : Script Evidence) :
    f.proceed pass job lock (.more rest) = f.setStage pass (.working lock rest) := rfl

theorem proceed_ended (f : Floor σ) (pass : Nat) (job : Job) (lock : LockId)
    (ending : Ending Evidence) :
    f.proceed pass job lock (.ended ending) = f.finish pass job lock ending := rfl

/-- What a move can do. -/
inductive Happens (c : Collaborators σ) (crew : Crew) (f : Floor σ) : Floor σ → Prop
  | nothing : Happens c crew f f
  | start (job : Job) : Happens c crew f (f.start job)
  | begin {pass : Nat} {job : Job} {lock : LockId} (hat : f.jobs[pass]? = some (job, .inLine lock))
      (hheld : f.locks.isHeldBy lock pass = true) :
      Happens c crew f ({ f with editor := f.editor.beginPass job.overlay }.setStage pass
        (.working lock (crew.work job.assignment (f.editor.beginPass job.overlay) job.overlay)))
  | goOn {pass : Nat} {job : Job} {stage later : Stage} {lock : LockId}
      {script rest : Script Evidence} (hat : f.jobs[pass]? = some (job, stage))
      (hlock : stage.lock? = some lock) (hscript : stage.script? = some script)
      (hlock' : later.lock? = some lock) (hscript' : later.script? = some rest)
      (hleads : script.Leads rest) (s : σ) :
      Happens c crew f ({ f with outside := s }.setStage pass later)
  | finish {pass : Nat} {job : Job} {stage : Stage} {lock : LockId}
      (hat : f.jobs[pass]? = some (job, stage)) (hlock : stage.lock? = some lock)
      {ending : Ending Evidence} (hinLine : stage.isInside = false → ending = .cancelled) (s : σ) :
      Happens c crew f ({ f with outside := s }.finish pass job lock ending)

theorem happens_proceed {c : Collaborators σ} {crew : Crew} {f : Floor σ} {pass : Nat} {job : Job}
    {stage : Stage} {lock : LockId} {script : Script Evidence}
    (hat : f.jobs[pass]? = some (job, stage)) (hlock : stage.lock? = some lock)
    (hscript : stage.script? = some script) {progress : Progress Evidence}
    (hleads : script.LeadsTo progress) (s : σ) :
    Happens c crew f ({ f with outside := s }.proceed pass job lock progress) := by
  cases progress with
  | more rest => exact .goOn hat hlock hscript rfl rfl hleads s
  | stuck request => exact .goOn hat hlock hscript rfl rfl hleads s
  | ended ending =>
    refine .finish hat hlock ?_ s
    intro hout
    rw [Stage.isInside_of_script? hscript] at hout
    cases hout

/-- Every move does one of the things that a move can do. -/
theorem happens_move (c : Collaborators σ) (crew : Crew) (f : Floor σ) (m : Move) :
    Happens c crew f (f.move c crew m) := by
  cases m with
  | start job => exact .start job
  | advance pass =>
    unfold move advance
    dsimp only
    split
    · next job lock hat =>
      unfold takeUp
      split
      · next hheld => exact .begin hat hheld
      · exact .nothing
    · next job lock script hat =>
      exact happens_proceed hat rfl rfl (script.leadsTo_step c f.outside) _
    · exact .nothing
  | cancel pass =>
    unfold move cancel
    dsimp only
    split
    · next job lock hat => exact .finish hat rfl (fun _ => rfl) f.outside
    · next job lock script hat =>
      exact happens_proceed hat rfl rfl script.leadsTo_interrupt f.outside
    · next job lock script hat =>
      exact happens_proceed hat rfl rfl script.leadsTo_interrupt f.outside
    · exact .nothing

/-! ## A pass from move to move -/

/-- A move keeps the job of a pass, and the lock that it refers to until it ends. -/
theorem Happens.keeps {c : Collaborators σ} {crew : Crew} {f f' : Floor σ}
    (h : Happens c crew f f') {pass : Nat} {job : Job} {stage : Stage}
    (hat : f.jobs[pass]? = some (job, stage)) :
    ∃ later, f'.jobs[pass]? = some (job, later) ∧
      (later.lock? = none ∨ later.lock? = stage.lock?) := by
  have hset : ∀ {g : Floor σ} {pass' : Nat} {job' : Job} {stage' later : Stage},
      g.jobs = f.jobs → f.jobs[pass']? = some (job', stage') →
        (later.lock? = none ∨ later.lock? = stage'.lock?) →
          ∃ after, (g.setStage pass' later).jobs[pass]? = some (job, after) ∧
            (after.lock? = none ∨ after.lock? = stage.lock?) := by
    intro g pass' job' stage' later hjobs hat' hlock
    by_cases hne : pass = pass'
    · subst hne
      rw [hat] at hat'
      cases hat'
      exact ⟨later, getElem?_setStage_self (hjobs ▸ hat) later, hlock⟩
    · exact ⟨stage, by rw [getElem?_setStage_ne hne, hjobs, hat], .inr rfl⟩
  cases h with
  | nothing => exact ⟨stage, hat, .inr rfl⟩
  | start job' =>
    refine ⟨stage, ?_, .inr rfl⟩
    exact (List.getElem?_append_left (List.getElem?_eq_some_iff.1 hat).1).trans hat
  | begin hat' hheld => exact hset rfl hat' (.inr rfl)
  | goOn hat' hlock hscript hlock' hscript' hleads s =>
    exact hset rfl hat' (.inr (hlock'.trans hlock.symm))
  | finish hat' hlock hinLine s => exact hset rfl hat' (.inl rfl)

theorem moves_keeps (c : Collaborators σ) (crew : Crew) (ms : List Move) {f : Floor σ} {pass : Nat}
    {job : Job} {stage : Stage} (hat : f.jobs[pass]? = some (job, stage)) :
    ∃ later, (f.moves c crew ms).jobs[pass]? = some (job, later) ∧
      (later.lock? = none ∨ later.lock? = stage.lock?) := by
  induction ms generalizing f stage with
  | nil => exact ⟨stage, hat, .inr rfl⟩
  | cons m ms ih =>
    obtain ⟨next, hnext, hlock⟩ := (happens_move c crew f m).keeps hat
    obtain ⟨later, hlater, hlock'⟩ := ih hnext
    refine ⟨later, hlater, ?_⟩
    rcases hlock' with hnone | hsame
    · exact .inl hnone
    · rw [hsame]
      exact hlock

/-! ## How a pass came to its stage -/

/-- What happened to a pass in a move after which it is at some stage. -/
inductive Arrives (crew : Crew) (f f' : Floor σ) (pass : Nat) (job : Job) : Stage → Prop
  | stays {stage : Stage} (hat : f.jobs[pass]? = some (job, stage)) :
      Arrives crew f f' pass job stage
  | starts (hnew : f.jobs[pass]? = none) (lock : LockId) : Arrives crew f f' pass job (.inLine lock)
  | begins {lock : LockId} (hat : f.jobs[pass]? = some (job, .inLine lock))
      (heditor : f'.editor = f.editor.beginPass job.overlay) :
      Arrives crew f f' pass job
        (.working lock (crew.work job.assignment (f.editor.beginPass job.overlay) job.overlay))
  | goesOn {stage later : Stage} {script rest : Script Evidence}
      (hat : f.jobs[pass]? = some (job, stage)) (hscript : stage.script? = some script)
      (hscript' : later.script? = some rest) (hleads : script.Leads rest)
      (heditor : f'.editor = f.editor) : Arrives crew f f' pass job later
  | ends {stage : Stage} {lock : LockId} (hat : f.jobs[pass]? = some (job, stage))
      (hlock : stage.lock? = some lock) (ending : Ending Evidence) (s : σ)
      (heq : f' = { f with outside := s }.finish pass job lock ending)
      (hinLine : stage.isInside = false → ending = .cancelled) :
      Arrives crew f f' pass job (.ended (f.editor.conclude job.overlay job.assignment ending).1)

theorem Happens.arrives {c : Collaborators σ} {crew : Crew} {f f' : Floor σ}
    (h : Happens c crew f f') {pass : Nat} {job : Job} {later : Stage}
    (hat : f'.jobs[pass]? = some (job, later)) : Arrives crew f f' pass job later := by
  cases h with
  | nothing => exact .stays hat
  | start job' =>
    obtain hold | ⟨rfl, rfl, rfl⟩ := getElem?_start hat
    · exact .stays hold
    · exact .starts (List.getElem?_eq_none (Nat.le_refl _)) _
  | @begin pass' job' lock hat' hheld =>
    by_cases hne : pass = pass'
    · subst hne
      have hset := getElem?_setStage_self
        (f := { f with editor := f.editor.beginPass job'.overlay }) hat'
        (.working lock (crew.work job'.assignment (f.editor.beginPass job'.overlay) job'.overlay))
      cases hset.symm.trans hat
      exact .begins hat' rfl
    · rw [getElem?_setStage_ne hne] at hat
      exact .stays hat
  | @goOn pass' job' stage later' lock script rest hat' hlock hscript hlock' hscript' hleads s =>
    by_cases hne : pass = pass'
    · subst hne
      have hset := getElem?_setStage_self (f := { f with outside := s }) hat' later'
      cases hset.symm.trans hat
      exact .goesOn hat' hscript hscript' hleads rfl
    · rw [getElem?_setStage_ne hne] at hat
      exact .stays hat
  | @finish pass' job' stage lock hat' hlock ending hinLine s =>
    by_cases hne : pass = pass'
    · subst hne
      have hset := getElem?_finish_self (f := { f with outside := s }) hat' lock ending
      cases hset.symm.trans hat
      exact .ends hat' hlock ending s rfl hinLine
    · rw [getElem?_finish_ne hne] at hat
      exact .stays hat

/-! ## The editor -/

/-- A pass changes the editor where it begins, and where it ends with something to show. -/
theorem Happens.editor {c : Collaborators σ} {crew : Crew} {f f' : Floor σ}
    (h : Happens c crew f f') :
    f'.editor = f.editor ∨
      (∃ (pass : Nat) (job : Job) (stage : Stage), f'.jobs[pass]? = some (job, stage) ∧
        stage.isInside = true ∧ f'.editor = f.editor.clear job.overlay) ∨
      ∃ (pass : Nat) (job : Job) (stage : Stage) (report : PassReport) (as : List Annotation),
        f.jobs[pass]? = some (job, stage) ∧ stage.isInside = true ∧
        f'.jobs[pass]? = some (job, .ended (.done report)) ∧
        f'.editor = f.editor.annotateAll job.overlay as := by
  cases h with
  | nothing => exact .inl rfl
  | start job => exact .inl rfl
  | @begin pass job lock hat hheld =>
    have hset := getElem?_setStage_self (f := { f with editor := f.editor.beginPass job.overlay })
      hat (.working lock (crew.work job.assignment (f.editor.beginPass job.overlay) job.overlay))
    exact .inr (.inl ⟨pass, job, _, hset, rfl, rfl⟩)
  | goOn hat hlock hscript hlock' hscript' hleads s => exact .inl rfl
  | @finish pass job stage lock hat hlock ending hinLine s =>
    cases ending with
    | done evidence =>
      have hinside : stage.isInside = true := by
        cases hin : stage.isInside with
        | true => rfl
        | false => cases hinLine hin
      have hset := getElem?_finish_self (f := { f with outside := s }) hat lock (.done evidence)
      exact .inr (.inr ⟨pass, job, stage, _, evidence.annotations, hat, hinside, hset, rfl⟩)
    | failed fault => exact .inl rfl
    | cancelled => exact .inl rfl

end Floor

end VarsAdvisor

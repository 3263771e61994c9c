import VarsAdvisor.Proofs.Floor.Locks
import VarsAdvisor.Proofs.Floor.Step

/-!
# Locks and passes

Whatever happens to passes, in whatever order: the locks are those of the documents that passes use
(`Orderly`), every pass refers to the lock that its document has, and only the first in line is at
work. So there are never two passes at work on one document, and when all passes have ended no lock
is left.
-/

namespace VarsAdvisor.Floor

variable {σ : Type}

/-! ## Users of a document -/

/-- The pass has entered for this document and has not ended. -/
def uses (f : Floor σ) (key : String) (pass : Nat) : Bool :=
  match f.jobs[pass]? with
  | some (job, stage) => decide (job.key = key) && stage.lock?.isSome
  | none => false

/-- The passes that use a document, in the order in which they started. -/
def usersOf (f : Floor σ) (key : String) : List Nat :=
  (List.range f.jobs.length).filter (f.uses key)

theorem uses_iff {f : Floor σ} {key : String} {pass : Nat} :
    f.uses key pass = true ↔
      ∃ job stage lock, f.jobs[pass]? = some (job, stage) ∧ job.key = key ∧
        stage.lock? = some lock := by
  unfold uses
  cases h : f.jobs[pass]? with
  | none => simp
  | some entry =>
    obtain ⟨job, stage⟩ := entry
    simp only [Bool.and_eq_true, decide_eq_true_eq, Option.isSome_iff_exists]
    constructor
    · rintro ⟨hkey, lock, hlock⟩
      exact ⟨job, stage, lock, rfl, hkey, hlock⟩
    · rintro ⟨_, _, lock, heq, hkey, hlock⟩
      cases heq
      exact ⟨hkey, lock, hlock⟩

theorem lt_of_uses {f : Floor σ} {key : String} {pass : Nat} (h : f.uses key pass = true) :
    pass < f.jobs.length := by
  obtain ⟨job, stage, lock, hat, -⟩ := uses_iff.1 h
  exact (List.getElem?_eq_some_iff.1 hat).1

theorem mem_usersOf {f : Floor σ} {key : String} {pass : Nat} :
    pass ∈ f.usersOf key ↔ f.uses key pass = true := by
  unfold usersOf
  rw [List.mem_filter, List.mem_range]
  exact ⟨fun h => h.2, fun h => ⟨lt_of_uses h, h⟩⟩

theorem nodup_usersOf (f : Floor σ) (key : String) : (f.usersOf key).Nodup :=
  List.nodup_range.filter _

/-- A pass that starts is the last user of its document. -/
theorem usersOf_start (f : Floor σ) (job : Job) :
    (f.start job).usersOf =
      Locks.assign f.usersOf job.key (f.usersOf job.key ++ [f.jobs.length]) := by
  funext key
  have hold : ∀ pass ∈ List.range f.jobs.length, (f.start job).uses key pass = f.uses key pass := by
    intro pass hpass
    unfold uses start
    dsimp only
    rw [List.getElem?_append_left (List.mem_range.1 hpass)]
  have hnew : (f.start job).uses key f.jobs.length = decide (job.key = key) := by
    unfold uses start
    simp [Stage.lock?]
  have hlength : (f.start job).jobs.length = f.jobs.length + 1 := by
    unfold start
    simp
  unfold usersOf Locks.assign
  rw [hlength, List.range_succ, List.filter_append, List.filter_congr hold]
  by_cases hkey : key = job.key
  · subst hkey
    simp [hnew]
  · simp [hnew, hkey, Ne.symm hkey]

/-- A pass that gets to another stage without ending stays a user. -/
theorem usersOf_setStage {f : Floor σ} {pass : Nat} {job : Job} {stage later : Stage}
    {lock lock' : LockId} (hat : f.jobs[pass]? = some (job, stage))
    (hlock : stage.lock? = some lock) (hlock' : later.lock? = some lock') :
    (f.setStage pass later).usersOf = f.usersOf := by
  funext key
  unfold usersOf
  rw [length_setStage]
  apply List.filter_congr
  intro other _
  unfold uses
  by_cases h : other = pass
  · subst h
    rw [getElem?_setStage_self hat, hat]
    simp [hlock, hlock']
  · rw [getElem?_setStage_ne h]

/-- A pass that ends is no longer a user. -/
theorem usersOf_end {f : Floor σ} {pass : Nat} {job : Job} {stage : Stage}
    (hat : f.jobs[pass]? = some (job, stage)) (ending : Ending PassReport) :
    (f.setStage pass (.ended ending)).usersOf =
      Locks.assign f.usersOf job.key ((f.usersOf job.key).filter (· != pass)) := by
  funext key
  have huses : ∀ other, (f.setStage pass (.ended ending)).uses key other =
      (f.uses key other && other != pass) := by
    intro other
    unfold uses
    by_cases h : other = pass
    · subst h
      rw [getElem?_setStage_self hat]
      simp [Stage.lock?]
    · rw [getElem?_setStage_ne h]
      simp [h]
  have hfilter : (f.setStage pass (.ended ending)).usersOf key =
      (f.usersOf key).filter (· != pass) := by
    unfold usersOf
    rw [length_setStage, List.filter_filter]
    apply List.filter_congr
    intro other _
    rw [huses, Bool.and_comm]
  rw [hfilter]
  by_cases hkey : key = job.key
  · subst hkey
    simp [Locks.assign]
  · simp only [Locks.assign, if_neg hkey]
    rw [List.filter_eq_self]
    intro other hother
    obtain ⟨job', stage', lock', hat', hkey', -⟩ := uses_iff.1 (mem_usersOf.1 hother)
    have hne : other ≠ pass := by
      rintro rfl
      rw [hat] at hat'
      cases hat'
      exact hkey hkey'.symm
    simpa using hne

theorem usersOf_finish {f : Floor σ} {pass : Nat} {job : Job} {stage : Stage}
    (hat : f.jobs[pass]? = some (job, stage)) (lock : LockId) (ending : Ending Evidence) :
    (f.finish pass job lock ending).usersOf =
      Locks.assign f.usersOf job.key ((f.usersOf job.key).filter (· != pass)) :=
  usersOf_end (f := { f with
    editor := (f.editor.conclude job.overlay job.assignment ending).2
    locks := f.locks.leave job.key lock pass }) hat _

/-! ## The invariant -/

/-- The locks are those of the documents in use, every pass refers to the lock of its document, and
a pass at work is the first of the users of its document. -/
structure Orderly (f : Floor σ) : Prop where
  serves : f.locks.Serves f.usersOf
  own : ∀ {pass : Nat} {job : Job} {stage : Stage} {lock : LockId},
    f.jobs[pass]? = some (job, stage) → stage.lock? = some lock →
      f.locks.locks.get? job.key = some lock
  first : ∀ {pass : Nat} {job : Job} {stage : Stage},
    f.jobs[pass]? = some (job, stage) → stage.isInside = true →
      (f.usersOf job.key).head? = some pass

namespace Orderly

theorem begin (e : Editor) (s : σ) : (begin e s).Orderly := by
  refine ⟨Locks.Serves.empty, ?_, ?_⟩
  · intro pass job stage lock hat
    cases hat
  · intro pass job stage hat
    cases hat

theorem start {f : Floor σ} (h : f.Orderly) (job : Job) : (f.start job).Orderly := by
  refine ⟨?_, ?_, ?_⟩
  · rw [usersOf_start]
    exact h.serves.enter job.key f.jobs.length
  · intro pass job' stage lock hat hlock
    obtain hold | ⟨-, rfl, rfl⟩ := getElem?_start hat
    · exact Locks.get?_enter_of_some (h.own hold hlock) _
    · cases hlock
      exact Locks.get?_enter _ _ _
  · intro pass job' stage hat hinside
    obtain hold | ⟨-, -, rfl⟩ := getElem?_start hat
    · have hfirst := h.first hold hinside
      rw [usersOf_start]
      unfold Locks.assign
      split
      · next hkey =>
        rw [← hkey, List.head?_append, hfirst]
        rfl
      · exact hfirst
    · cases hinside

/-- A pass that gets to another stage keeps its lock, and has to be the first if it is at work. -/
theorem setStage {f : Floor σ} (h : f.Orderly) {pass : Nat} {job : Job} {stage later : Stage}
    {lock : LockId} (hat : f.jobs[pass]? = some (job, stage)) (hlock : stage.lock? = some lock)
    (hlock' : later.lock? = some lock) (hfirst : (f.usersOf job.key).head? = some pass) :
    (f.setStage pass later).Orderly := by
  have husers := usersOf_setStage hat hlock hlock'
  refine ⟨?_, ?_, ?_⟩
  · rw [husers]
    exact h.serves
  · intro other job' stage' lock' hat' hlock''
    by_cases hne : other = pass
    · subst hne
      rw [getElem?_setStage_self hat] at hat'
      cases hat'
      rw [hlock'] at hlock''
      cases hlock''
      exact h.own hat hlock
    · rw [getElem?_setStage_ne hne] at hat'
      exact h.own hat' hlock''
  · intro other job' stage' hat' hinside
    rw [husers]
    by_cases hne : other = pass
    · subst hne
      rw [getElem?_setStage_self hat] at hat'
      cases hat'
      exact hfirst
    · rw [getElem?_setStage_ne hne] at hat'
      exact h.first hat' hinside

/-- The editor and what is outside do not matter for the locks. -/
theorem congr {f f' : Floor σ} (h : f.Orderly) (hlocks : f'.locks = f.locks)
    (hjobs : f'.jobs = f.jobs) : f'.Orderly := by
  have huses : f'.usersOf = f.usersOf := by
    unfold usersOf uses
    rw [hjobs]
  refine ⟨?_, ?_, ?_⟩
  · rw [hlocks, huses]
    exact h.serves
  · rw [hlocks, hjobs]
    exact h.own
  · rw [hjobs, huses]
    exact h.first

theorem finish {f : Floor σ} (h : f.Orderly) {pass : Nat} {job : Job} {stage : Stage}
    {lock : LockId} (hat : f.jobs[pass]? = some (job, stage)) (hlock : stage.lock? = some lock)
    (ending : Ending Evidence) : (f.finish pass job lock ending).Orderly := by
  have husers := usersOf_finish hat lock ending
  have hmem : pass ∈ f.usersOf job.key :=
    mem_usersOf.2 (uses_iff.2 ⟨job, stage, lock, hat, rfl, hlock⟩)
  have hserves : (f.finish pass job lock ending).locks.Serves
      (f.finish pass job lock ending).usersOf := by
    rw [husers]
    exact h.serves.leave (h.own hat hlock) hmem (nodup_usersOf f job.key)
  have hothers : ∀ {other : Nat} {job' : Job} {stage' : Stage} {lock' : LockId},
      (f.finish pass job lock ending).jobs[other]? = some (job', stage') →
        stage'.lock? = some lock' → other ≠ pass ∧ f.jobs[other]? = some (job', stage') := by
    intro other job' stage' lock' hat' halive
    have hne : other ≠ pass := by
      rintro rfl
      rw [getElem?_finish_self hat] at hat'
      cases hat'
      cases halive
    exact ⟨hne, by rwa [getElem?_finish_ne hne] at hat'⟩
  refine ⟨hserves, ?_, ?_⟩
  · intro other job' stage' lock' hat' hlock'
    obtain ⟨-, hold⟩ := hothers hat' hlock'
    -- The other pass is still a user, so its document's lock has not been dropped.
    have huser : other ∈ (f.finish pass job lock ending).usersOf job'.key :=
      mem_usersOf.2 (uses_iff.2 ⟨job', stage', lock', hat', rfl, hlock'⟩)
    obtain hnone | hsame := Locks.get?_leave f.locks job.key lock pass job'.key
    · rw [(hserves.get?_eq_none_iff _).1 hnone] at huser
      cases huser
    · exact hsame.trans (h.own hold hlock')
  · intro other job' stage' hat' hinside
    obtain ⟨lock', hlock'⟩ := Stage.exists_lock? hinside
    obtain ⟨hne, hold⟩ := hothers hat' hlock'
    have hfirst := h.first hold hinside
    rw [husers]
    unfold Locks.assign
    split
    · next hkey =>
      rw [hkey] at hfirst
      obtain ⟨rest, hrest⟩ := List.head?_eq_some_iff.1 hfirst
      rw [hrest, List.filter_cons_of_pos (by simpa using hne)]
      rfl
    · exact hfirst

/-- Whatever a move can do, the locks stay in order. -/
theorem happens {c : Collaborators σ} {crew : Crew} {f f' : Floor σ} (h : f.Orderly)
    (hstep : Happens c crew f f') : f'.Orderly := by
  cases hstep with
  | nothing => exact h
  | start job => exact h.start job
  | @begin pass job lock hat hheld =>
    have hfirst : (f.usersOf job.key).head? = some pass := by
      rw [← h.serves.line (h.own hat rfl)]
      exact eq_of_beq hheld
    have hsame : ({ f with editor := f.editor.beginPass job.overlay } : Floor σ).Orderly :=
      h.congr rfl rfl
    exact hsame.setStage hat rfl rfl hfirst
  | @goOn pass job stage later lock script rest hat hlock hscript hlock' hscript' hleads s =>
    have hsame : ({ f with outside := s } : Floor σ).Orderly := h.congr rfl rfl
    exact hsame.setStage hat hlock hlock' (h.first hat (Stage.isInside_of_script? hscript))
  | @finish pass job stage lock hat hlock ending hinLine s =>
    have hsame : ({ f with outside := s } : Floor σ).Orderly := h.congr rfl rfl
    exact hsame.finish hat hlock ending

/-- Whatever happens, in whatever order, the locks stay in order. -/
theorem moves {f : Floor σ} (h : f.Orderly) (c : Collaborators σ) (crew : Crew) (ms : List Move) :
    (f.moves c crew ms).Orderly := by
  induction ms generalizing f with
  | nil => exact h
  | cons m ms ih => exact ih (h.happens (happens_move c crew f m))

/-- Two passes at work on one document are the same pass. -/
theorem inside_unique {f : Floor σ} (h : f.Orderly) {pass pass' : Nat} {job job' : Job}
    {stage stage' : Stage} (hat : f.jobs[pass]? = some (job, stage))
    (hat' : f.jobs[pass']? = some (job', stage')) (hinside : stage.isInside = true)
    (hinside' : stage'.isInside = true) (hkey : job.key = job'.key) : pass = pass' := by
  have hfirst := h.first hat hinside
  rw [hkey, h.first hat' hinside'] at hfirst
  exact (Option.some.inj hfirst).symm

end Orderly

/-! ## The holder of a lock -/

theorem le_of_head?_usersOf {f : Floor σ} {key : String} {pass other : Nat}
    (hfirst : (f.usersOf key).head? = some pass) (hmem : other ∈ f.usersOf key) : pass ≤ other := by
  obtain ⟨rest, hrest⟩ := List.head?_eq_some_iff.1 hfirst
  have hsorted : (f.usersOf key).Pairwise (· < ·) := List.pairwise_lt_range.filter _
  rw [hrest] at hsorted hmem
  rcases List.mem_cons.1 hmem with rfl | hrest
  · exact Nat.le_refl _
  · exact Nat.le_of_lt (List.rel_of_pairwise_cons hsorted hrest)

/-- Whoever holds the lock of a document started before all others that use it. -/
theorem Orderly.isHeldBy_iff {f : Floor σ} (h : f.Orderly) {pass : Nat} {job : Job} {stage : Stage}
    {lock : LockId} (hat : f.jobs[pass]? = some (job, stage)) (hlock : stage.lock? = some lock) :
    f.locks.isHeldBy lock pass = true ↔ ∀ other, f.uses job.key other = true → pass ≤ other := by
  have hmem : pass ∈ f.usersOf job.key :=
    mem_usersOf.2 (uses_iff.2 ⟨job, stage, lock, hat, rfl, hlock⟩)
  unfold Locks.isHeldBy
  rw [h.serves.line (h.own hat hlock), beq_iff_eq]
  constructor
  · intro hfirst other hother
    exact le_of_head?_usersOf hfirst (mem_usersOf.2 hother)
  · intro hleast
    obtain ⟨first, hfirst⟩ : ∃ first, (f.usersOf job.key).head? = some first :=
      Option.isSome_iff_exists.1 (List.isSome_head?.2 (List.ne_nil_of_mem hmem))
    have hother : first ∈ f.usersOf job.key := List.mem_of_mem_head? hfirst
    have hle := hleast first (mem_usersOf.1 hother)
    have hge := le_of_head?_usersOf hfirst hmem
    rw [hfirst, Nat.le_antisymm hge hle]

/-! ## All documents -/

/-- **Locks and mutual exclusion.** However passes are started, advanced and cancelled, and whatever
their collaborators do: the documents with a lock are those with a count, which are those that some
pass uses, and the count is the number of these passes. Each of them refers to the lock that its
document has, and goes on doing so until it ends. At most one pass is at work on a document. When
all passes have ended, no lock and no count is left. A document is known by its path, resolved from
the directory of the pass (`Job.key`); without links that takes double points back one by one. -/
theorem locks_in_order (c : Collaborators σ) (crew : Crew) (e : Editor) (s : σ) (ms : List Move) :
    let f := (Floor.begin e s).moves c crew ms
    f.locks.locks.keys = f.locks.users.keys ∧
      f.locks.locks.keys.Nodup ∧
      (∀ key, key ∈ f.locks.locks.keys ↔ ∃ pass, f.uses key pass = true) ∧
      (∀ key, f.locks.userCount key = (f.usersOf key).length) ∧
      (∀ (pass : Nat) (job : Job) (stage : Stage) (lock : LockId),
        f.jobs[pass]? = some (job, stage) → stage.lock? = some lock →
          f.locks.locks.get? job.key = some lock ∧
            ∀ (more : List Move) (later : Stage),
              (f.moves c crew more).jobs[pass]? = some (job, later) → later.lock? ≠ none →
                (f.moves c crew more).locks.locks.get? job.key = some lock) ∧
      (∀ (pass pass' : Nat) (job job' : Job) (stage stage' : Stage),
        f.jobs[pass]? = some (job, stage) → f.jobs[pass']? = some (job', stage') →
          stage.isInside = true → stage'.isInside = true → job.key = job'.key → pass = pass') ∧
      ((∀ (pass : Nat) (job : Job) (stage : Stage),
          f.jobs[pass]? = some (job, stage) → stage.lock? = none) →
        f.locks.locks = [] ∧ f.locks.users = []) := by
  intro f
  have h : f.Orderly := (Orderly.begin e s).moves c crew ms
  refine ⟨h.serves.keys, h.serves.keys ▸ h.serves.nodup, ?_, h.serves.userCount_eq, ?_, ?_, ?_⟩
  · intro key
    rw [h.serves.keys, h.serves.mem_keys_iff]
    constructor
    · intro husers
      obtain ⟨pass, hpass⟩ := List.exists_mem_of_ne_nil _ husers
      exact ⟨pass, mem_usersOf.1 hpass⟩
    · rintro ⟨pass, hpass⟩
      exact List.ne_nil_of_mem (mem_usersOf.2 hpass)
  · intro pass job stage lock hat hlock
    refine ⟨h.own hat hlock, ?_⟩
    intro more later hlater halive
    obtain ⟨later', hlater', hlock'⟩ := moves_keeps c crew more hat
    rw [hlater] at hlater'
    cases hlater'
    have hsame : later.lock? = some lock := (hlock'.resolve_left halive).trans hlock
    exact (h.moves c crew more).own hlater hsame
  · intro pass pass' job job' stage stage' hat hat' hinside hinside' hkey
    exact h.inside_unique hat hat' hinside hinside' hkey
  · intro hended
    have hnone : ∀ key, f.usersOf key = [] := by
      intro key
      rw [List.eq_nil_iff_forall_not_mem]
      intro pass hpass
      obtain ⟨job, stage, lock, hat, -, hlock⟩ := uses_iff.1 (mem_usersOf.1 hpass)
      rw [hended pass job stage hat] at hlock
      cases hlock
    refine ⟨Table.eq_nil_of_get? ?_, Table.eq_nil_of_get? ?_⟩
    · intro key
      exact (h.serves.get?_eq_none_iff key).2 (hnone key)
    · intro key
      rw [h.serves.count, if_pos (hnone key)]

end VarsAdvisor.Floor

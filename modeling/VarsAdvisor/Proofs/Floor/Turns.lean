import VarsAdvisor.Proofs.Floor.Abort
import VarsAdvisor.Proofs.Pass.InTurn

/-!
# Passes take turns

Passes over one document and one overlay that are under way at the same time end as if each had been
run when the one before it had ended. The invariant (`InTurn`): the first passes have ended as they
do one after the other, the next one is at a point of its run from what they left, and all others
are in line and have touched nothing.
-/

namespace VarsAdvisor.Floor

variable {σ : Type}

/-! ## The invariant -/

section

variable (c : Collaborators σ) (crew : Crew) (directory : Path) (key : String)
  (overlay : OverlayId) (e : Editor) (s : σ)

/-- A pass whose predecessors left an editor and a state outside is somewhere on its way from there.
It makes at most as many steps as `left`. -/
inductive OnItsWay (a : Assignment) (e' : Editor) (s' : σ) (f : Floor σ) (left : Nat) : Stage → Prop
  | inLine (lock : LockId) (heditor : f.editor = e') (houtside : f.outside = s')
      (hleft : stepsOf crew ≤ left) : OnItsWay a e' s' f left (.inLine lock)
  | working (lock : LockId) {rest : Script Evidence} {plan : List (List String)} {asks : Nat}
      (heditor : f.editor = e'.beginPass overlay)
      (hrun : rest.run c f.outside = (crew.work a (e'.beginPass overlay) overlay).run c s')
      (hobeys : rest.Obeys plan asks) (hleft : plan.length + asks < left) :
      OnItsWay a e' s' f left (.working lock rest)

/-- The documents of all passes are at one place. The first `k` passes have ended as they do one
after the other, and left what they leave then; the next one is on its way from there; the others are
in line. Together they make at most as many steps as `budget`. -/
structure InTurn (as : List Assignment) (f : Floor σ) (k budget : Nat) : Prop where
  place : ∀ a ∈ as, Job.key ⟨directory, a, overlay⟩ = key
  le : k ≤ as.length
  length : f.jobs.length = as.length
  ended : ∀ {i : Nat} {a : Assignment}, i < k → as[i]? = some a →
    ∃ ending, (runInTurn c crew overlay (as.take k) e s).1[i]? = some ending ∧
      f.jobs[i]? = some (⟨directory, a, overlay⟩, .ended ending)
  turn : ∀ {a : Assignment}, as[k]? = some a → ∃ stage left,
    f.jobs[k]? = some (⟨directory, a, overlay⟩, stage) ∧
      OnItsWay c crew overlay a (runInTurn c crew overlay (as.take k) e s).2.1
        (runInTurn c crew overlay (as.take k) e s).2.2 f left stage ∧
      (as.length - (k + 1)) * stepsOf crew + left ≤ budget
  waiting : ∀ {i : Nat} {a : Assignment}, k < i → as[i]? = some a →
    ∃ lock, f.jobs[i]? = some (⟨directory, a, overlay⟩, .inLine lock)
  allEnded : k = as.length → f.editor = (runInTurn c crew overlay as e s).2.1 ∧
    f.outside = (runInTurn c crew overlay as e s).2.2

end

namespace OnItsWay

variable {c : Collaborators σ} {crew : Crew} {overlay : OverlayId} {a : Assignment} {e' : Editor}
  {s' : σ} {f f' : Floor σ} {left : Nat} {stage : Stage}

/-- A pass on its way has not ended. -/
theorem lock? (h : OnItsWay c crew overlay a e' s' f left stage) :
    ∃ lock, stage.lock? = some lock := by
  cases h with
  | inLine lock => exact ⟨lock, rfl⟩
  | working lock => exact ⟨lock, rfl⟩

theorem congr (h : OnItsWay c crew overlay a e' s' f left stage) (heditor : f'.editor = f.editor)
    (houtside : f'.outside = f.outside) : OnItsWay c crew overlay a e' s' f' left stage := by
  cases h with
  | inLine lock hsame hsame' hleft =>
    exact .inLine lock (heditor.trans hsame) (houtside.trans hsame') hleft
  | working lock hsame hrun hobeys hleft =>
    exact .working lock (heditor.trans hsame) (by rw [houtside, hrun]) hobeys hleft

end OnItsWay

namespace InTurn

variable {c : Collaborators σ} {crew : Crew} {directory : Path} {key : String}
  {overlay : OverlayId} {e : Editor} {s : σ} {as : List Assignment} {f : Floor σ} {k budget : Nat}

theorem begin : InTurn c crew directory key overlay e s [] (begin e s) 0 0 where
  place := List.forall_mem_nil _
  le := Nat.le_refl _
  length := rfl
  ended h := absurd h (Nat.not_lt_zero _)
  turn h := by cases h
  waiting _ h := by cases h
  allEnded _ := ⟨rfl, rfl⟩

theorem mono (h : InTurn c crew directory key overlay e s as f k budget) {budget' : Nat}
    (hle : budget ≤ budget') : InTurn c crew directory key overlay e s as f k budget' where
  place := h.place
  le := h.le
  length := h.length
  ended := h.ended
  turn hk := by
    obtain ⟨stage, left, hat, hway, hbudget⟩ := h.turn hk
    exact ⟨stage, left, hat, hway, Nat.le_trans hbudget hle⟩
  waiting := h.waiting
  allEnded := h.allEnded

/-- When all have ended, no more steps are made. -/
theorem exhausted (h : InTurn c crew directory key overlay e s as f k budget) (hk : k = as.length)
    (budget' : Nat) : InTurn c crew directory key overlay e s as f k budget' where
  place := h.place
  le := h.le
  length := h.length
  ended := h.ended
  turn hat := by
    rw [hk, List.getElem?_eq_none (Nat.le_refl _)] at hat
    cases hat
  waiting := h.waiting
  allEnded := h.allEnded

/-- When no step is left to be made, all passes have ended. -/
theorem eq_length (h : InTurn c crew directory key overlay e s as f k 0) : k = as.length := by
  rcases Nat.lt_or_eq_of_le h.le with hlt | heq
  · obtain ⟨stage, left, hat, hway, hbudget⟩ := h.turn (List.getElem?_eq_getElem hlt)
    have hleft : left = 0 := by omega
    subst hleft
    cases hway with
    | inLine lock heditor houtside hleft => exact absurd hleft (Nat.not_succ_le_zero _)
    | working lock heditor hrun hobeys hleft => exact absurd hleft (Nat.not_lt_zero _)
  · exact heq

/-- A pass that starts waits for all others. -/
theorem start (h : InTurn c crew directory key overlay e s as f k budget) {a : Assignment}
    (ha : Job.key ⟨directory, a, overlay⟩ = key) :
    InTurn c crew directory key overlay e s (as ++ [a]) (f.start ⟨directory, a, overlay⟩) k
      (budget + stepsOf crew) := by
  have htake : (as ++ [a]).take k = as.take k := List.take_append_of_le_length h.le
  have hold : ∀ {i : Nat}, i < as.length →
      (f.start ⟨directory, a, overlay⟩).jobs[i]? = f.jobs[i]? :=
    fun hi => List.getElem?_append_left (h.length ▸ hi)
  have hnew : ∃ lock, (f.start ⟨directory, a, overlay⟩).jobs[as.length]? =
      some (⟨directory, a, overlay⟩, .inLine lock) := by
    rw [← h.length]
    exact ⟨_, List.getElem?_concat_length⟩
  have hlength : (as ++ [a]).length = as.length + 1 := List.length_append
  refine ⟨?_, ?_, ?_, ?_, ?_, ?_, ?_⟩
  · rw [List.forall_mem_append, List.forall_mem_singleton]
    exact ⟨h.place, ha⟩
  · rw [hlength]
    exact Nat.le_succ_of_le h.le
  · rw [hlength, ← h.length]
    exact List.length_append
  · intro i b hi hat
    have hlt : i < as.length := Nat.lt_of_lt_of_le hi h.le
    rw [List.getElem?_append_left hlt] at hat
    rw [htake, hold hlt]
    exact h.ended hi hat
  · intro b hat
    rcases Nat.lt_or_eq_of_le h.le with hlt | heq
    · rw [List.getElem?_append_left hlt] at hat
      obtain ⟨stage, left, hat', hway, hbudget⟩ := h.turn hat
      refine ⟨stage, left, by rw [hold hlt, hat'], ?_, ?_⟩
      · rw [htake]
        exact hway.congr rfl rfl
      · have hmore : (as ++ [a]).length - (k + 1) = (as.length - (k + 1)) + 1 := by omega
        rw [hmore, Nat.succ_mul]
        omega
    · subst heq
      rw [List.getElem?_concat_length] at hat
      cases hat
      obtain ⟨lock, hat'⟩ := hnew
      obtain ⟨heditor, houtside⟩ := h.allEnded rfl
      refine ⟨.inLine lock, stepsOf crew, hat', ?_, ?_⟩
      · rw [htake, List.take_length]
        exact .inLine lock heditor houtside (Nat.le_refl _)
      · rw [hlength, Nat.sub_self, Nat.zero_mul, Nat.zero_add]
        exact Nat.le_add_left _ _
  · intro i b hi hat
    rcases Nat.lt_trichotomy i as.length with hlt | heq | hgt
    · rw [List.getElem?_append_left hlt] at hat
      rw [hold hlt]
      exact h.waiting hi hat
    · subst heq
      rw [List.getElem?_concat_length] at hat
      cases hat
      exact hnew
    · rw [List.getElem?_eq_none (by omega)] at hat
      cases hat
  · intro heq
    have hle := h.le
    omega

/-! ## Steps -/

/-- Only the pass whose turn it is can make a step. -/
theorem advance_ne (h : InTurn c crew directory key overlay e s as f k budget) (ho : f.Orderly) {i : Nat}
    (hi : i = k → k = as.length) : f.advance c crew i = f := by
  rcases Nat.lt_or_ge i as.length with hlt | hge
  · have hsome := List.getElem?_eq_getElem hlt
    rcases Nat.lt_or_gt_of_ne (fun heq : i = k => by omega) with hbefore | hafter
    · obtain ⟨ending, -, hat⟩ := h.ended hbefore hsome
      exact advance_ended hat
    · obtain ⟨lock, hat⟩ := h.waiting hafter hsome
      obtain ⟨stage, left, hturn, hway, -⟩ :=
        h.turn (List.getElem?_eq_getElem (Nat.lt_trans hafter hlt))
      obtain ⟨lock', hlock'⟩ := hway.lock?
      -- The pass whose turn it is uses the document and came first.
      have hheld : ¬ f.locks.isHeldBy lock i = true := by
        rw [ho.isHeldBy_iff hat rfl]
        intro hleast
        have hplace : Job.key ⟨directory, as[k], overlay⟩ = Job.key ⟨directory, as[i], overlay⟩ :=
          (h.place _ (List.getElem_mem _)).trans (h.place _ (List.getElem_mem _)).symm
        exact Nat.not_le_of_gt hafter (hleast k (uses_iff.2 ⟨_, _, lock', hturn, hplace, hlock'⟩))
      unfold advance
      rw [hat]
      dsimp only
      unfold takeUp
      rw [if_neg hheld]
  · have hnone : f.jobs[i]? = none := List.getElem?_eq_none (h.length ▸ hge)
    unfold advance
    rw [hnone]

/-- The pass whose turn it is gets to another point of its way. -/
theorem setTurn (h : InTurn c crew directory key overlay e s as f k budget) (left : Nat) {f' : Floor σ}
    (hlength : f'.jobs.length = f.jobs.length)
    (hothers : ∀ i, i ≠ k → f'.jobs[i]? = f.jobs[i]?) {a : Assignment} (hk : as[k]? = some a)
    {stage : Stage} {budget' : Nat} (hat : f'.jobs[k]? = some (⟨directory, a, overlay⟩, stage))
    (hway : OnItsWay c crew overlay a (runInTurn c crew overlay (as.take k) e s).2.1
      (runInTurn c crew overlay (as.take k) e s).2.2 f' left stage)
    (hbudget : (as.length - (k + 1)) * stepsOf crew + left ≤ budget') :
    InTurn c crew directory key overlay e s as f' k budget' := by
  refine ⟨h.place, h.le, hlength.trans h.length, ?_, ?_, ?_, ?_⟩
  · intro i b hi hb
    rw [hothers i (Nat.ne_of_lt hi)]
    exact h.ended hi hb
  · intro b hb
    rw [hk] at hb
    cases hb
    exact ⟨stage, left, hat, hway, hbudget⟩
  · intro i b hi hb
    rw [hothers i (Nat.ne_of_gt hi)]
    exact h.waiting hi hb
  · intro heq
    rw [heq, List.getElem?_eq_none (Nat.le_refl _)] at hk
    cases hk

/-- The pass whose turn it is ends, and it is the next one's turn. -/
theorem endTurn (h : InTurn c crew directory key overlay e s as f k budget) {f' : Floor σ}
    (hlength : f'.jobs.length = f.jobs.length)
    (hothers : ∀ i, i ≠ k → f'.jobs[i]? = f.jobs[i]?) {a : Assignment} (hk : as[k]? = some a)
    {ending : Ending PassReport}
    (hpass : runPass c crew a overlay (runInTurn c crew overlay (as.take k) e s).2.1
      (runInTurn c crew overlay (as.take k) e s).2.2 = (ending, f'.editor, f'.outside))
    (hat : f'.jobs[k]? = some (⟨directory, a, overlay⟩, .ended ending)) {budget' : Nat}
    (hbudget : (as.length - (k + 1)) * stepsOf crew ≤ budget') :
    InTurn c crew directory key overlay e s as f' (k + 1) budget' := by
  have hlt : k < as.length := (List.getElem?_eq_some_iff.1 hk).1
  have hnext : runInTurn c crew overlay (as.take (k + 1)) e s =
      ((runInTurn c crew overlay (as.take k) e s).1 ++ [ending], f'.editor, f'.outside) := by
    have htake : as.take (k + 1) = as.take k ++ [a] := by
      rw [List.take_add_one, hk]
      rfl
    rw [htake, runInTurn_concat]
    dsimp only
    rw [hpass]
  have hpast : (runInTurn c crew overlay (as.take k) e s).1.length = k := by
    rw [length_runInTurn, List.length_take_of_le h.le]
  refine ⟨h.place, hlt, hlength.trans h.length, ?_, ?_, ?_, ?_⟩
  · intro i b hi hb
    rw [hnext]
    rcases Nat.lt_or_eq_of_le (Nat.le_of_lt_succ hi) with hbefore | rfl
    · obtain ⟨ending', hending, hat'⟩ := h.ended hbefore hb
      refine ⟨ending', ?_, ?_⟩
      · rw [List.getElem?_append_left (by omega), hending]
      · rw [hothers i (Nat.ne_of_lt hbefore), hat']
    · rw [hk] at hb
      cases hb
      refine ⟨ending, ?_, hat⟩
      rw [List.getElem?_append_right (by omega), hpast, Nat.sub_self]
      rfl
  · intro b hb
    obtain ⟨lock, hat'⟩ := h.waiting (Nat.lt_succ_self k) hb
    refine ⟨.inLine lock, stepsOf crew, ?_, ?_, ?_⟩
    · rw [hothers _ (Nat.succ_ne_self k), hat']
    · rw [hnext]
      exact .inLine lock rfl rfl (Nat.le_refl _)
    · have hlt' : k + 1 < as.length := (List.getElem?_eq_some_iff.1 hb).1
      have hless : as.length - (k + 1) = (as.length - (k + 1 + 1)) + 1 := by omega
      rw [hless, Nat.succ_mul] at hbudget
      exact hbudget
  · intro i b hi hb
    rw [hothers i (by omega)]
    exact h.waiting (Nat.lt_of_succ_lt hi) hb
  · intro heq
    have hall : as.take (k + 1) = as := by rw [heq, List.take_length]
    rw [hall] at hnext
    rw [hnext]
    exact ⟨rfl, rfl⟩

/-- The pass whose turn it is holds the lock. -/
theorem isHeldBy_turn (h : InTurn c crew directory key overlay e s as f k budget) (ho : f.Orderly)
    {a : Assignment} {stage : Stage} {lock : LockId}
    (hat : f.jobs[k]? = some (⟨directory, a, overlay⟩, stage)) (hlock : stage.lock? = some lock) :
    f.locks.isHeldBy lock k = true := by
  rw [ho.isHeldBy_iff hat hlock]
  intro other huses
  by_contra hbefore
  obtain ⟨job, stage', lock', hother, -, hlock'⟩ := uses_iff.1 huses
  have hlt : other < k := Nat.lt_of_not_le hbefore
  obtain ⟨ending, -, hended⟩ :=
    h.ended hlt (List.getElem?_eq_getElem (Nat.lt_of_lt_of_le hlt h.le))
  rw [hended] at hother
  cases hother
  cases hlock'

/-- The pass whose turn it is begins. -/
theorem advance_inLine (h : InTurn c crew directory key overlay e s as f k budget) (ho : f.Orderly)
    {a : Assignment} (hk : as[k]? = some a) {lock : LockId} {left : Nat}
    (hat : f.jobs[k]? = some (⟨directory, a, overlay⟩, .inLine lock))
    (heditor : f.editor = (runInTurn c crew overlay (as.take k) e s).2.1)
    (houtside : f.outside = (runInTurn c crew overlay (as.take k) e s).2.2)
    (hleft : stepsOf crew ≤ left)
    (hbudget : (as.length - (k + 1)) * stepsOf crew + left ≤ budget) :
    InTurn c crew directory key overlay e s as (f.advance c crew k) k (budget - 1) := by
  have hstep : f.advance c crew k =
      ({ f with editor := f.editor.beginPass overlay } : Floor σ).setStage k
        (.working lock (crew.work a (f.editor.beginPass overlay) overlay)) := by
    unfold advance
    rw [hat]
    dsimp only
    unfold takeUp
    rw [if_pos (h.isHeldBy_turn ho hat rfl)]
  have hplan := crew.length_plan_le a
  rw [hstep]
  refine h.setTurn (left - 1) ?_ ?_ hk (getElem?_setStage_self hat _) ?_ ?_
  · exact length_setStage _ _ _
  · intro i hi
    exact getElem?_setStage_ne hi _ _
  · rw [← heditor, ← houtside]
    refine .working lock rfl rfl (crew.obeys_gather _ _) ?_
    unfold stepsOf at hleft
    omega
  · unfold stepsOf at hleft
    omega

/-- The pass whose turn it is makes a request, or ends. -/
theorem advance_working (h : InTurn c crew directory key overlay e s as f k budget) (hc : c.Responsive)
    {a : Assignment} (hk : as[k]? = some a) {lock : LockId} {rest : Script Evidence}
    {plan : List (List String)} {asks left : Nat}
    (hat : f.jobs[k]? = some (⟨directory, a, overlay⟩, .working lock rest))
    (heditor : f.editor = (runInTurn c crew overlay (as.take k) e s).2.1.beginPass overlay)
    (hrun : rest.run c f.outside =
      (crew.work a ((runInTurn c crew overlay (as.take k) e s).2.1.beginPass overlay) overlay).run c
        (runInTurn c crew overlay (as.take k) e s).2.2)
    (hobeys : rest.Obeys plan asks) (hleft : plan.length + asks < left)
    (hbudget : (as.length - (k + 1)) * stepsOf crew + left ≤ budget) :
    ∃ k', InTurn c crew directory key overlay e s as (f.advance c crew k) k' (budget - 1) := by
  have hfirst := Script.run_eq_of_step hc rest f.outside
  rw [Floor.advance_working hat]
  cases hstep : rest.step c f.outside with
  | mk progress s' =>
    rw [hstep] at hfirst
    cases progress with
    | more rest' =>
      obtain ⟨plan', asks', hobeys', hless⟩ := hobeys.step hstep
      refine ⟨k, h.setTurn (left - 1) ?_ ?_ hk (getElem?_setStage_self hat _) ?_ ?_⟩
      · exact length_setStage _ _ _
      · intro i hi
        exact getElem?_setStage_ne hi _ _
      · exact .working lock heditor (hfirst.symm.trans hrun) hobeys' (by omega)
      · omega
    | ended ending =>
      have hpass := runPass_of_run (hrun.symm.trans hfirst)
      rw [← heditor] at hpass
      have hended := getElem?_finish_self (f := { f with outside := s' }) hat lock ending
      refine ⟨k + 1, h.endTurn ?_ ?_ hk hpass hended ?_⟩
      · exact length_setStage _ _ _
      · intro i hi
        exact getElem?_finish_ne hi _ _ _ _
      · omega
    | stuck request => exact hfirst.elim

/-- The pass whose turn it is can make a step. -/
theorem advance_turn (h : InTurn c crew directory key overlay e s as f k budget) (hc : c.Responsive)
    (ho : f.Orderly) (hk : k < as.length) :
    ∃ k' budget', InTurn c crew directory key overlay e s as (f.advance c crew k) k' budget' ∧
      budget' < budget := by
  have hsome := List.getElem?_eq_getElem hk
  obtain ⟨stage, left, hat, hway, hbudget⟩ := h.turn hsome
  cases hway with
  | inLine lock heditor houtside hleft =>
    refine ⟨k, budget - 1, h.advance_inLine ho hsome hat heditor houtside hleft hbudget, ?_⟩
    unfold stepsOf at hleft
    omega
  | working lock heditor hrun hobeys hleft =>
    obtain ⟨k', hafter⟩ := h.advance_working hc hsome hat heditor hrun hobeys hleft hbudget
    exact ⟨k', budget - 1, hafter, by omega⟩

/-! ## Whole runs -/

/-- However the passes are advanced, no steps are added, and if the turn's pass is among those that
are advanced, one is made. -/
theorem advances (h : InTurn c crew directory key overlay e s as f k budget) (hc : c.Responsive)
    (ho : f.Orderly) (is : List Nat) :
    ∃ k' budget', InTurn c crew directory key overlay e s as (f.moves c crew (is.map .advance)) k' budget' ∧
      budget' ≤ budget ∧ (k ∈ is → k < as.length → budget' < budget) := by
  induction is generalizing f k budget with
  | nil => exact ⟨k, budget, h, Nat.le_refl _, fun hmem => absurd hmem List.not_mem_nil⟩
  | cons i is ih =>
    have ho' : (f.advance c crew i).Orderly := ho.happens (happens_move c crew f (.advance i))
    by_cases hi : i = k → k = as.length
    · have hsame := h.advance_ne ho hi
      obtain ⟨k', budget', hafter, hle, hlt⟩ := ih h ho
      refine ⟨k', budget', ?_, hle, ?_⟩
      · show InTurn c crew directory key overlay e s as
          ((f.advance c crew i).moves c crew (is.map .advance)) k' budget'
        rwa [hsame]
      · intro hmem hk
        rcases List.mem_cons.1 hmem with heq | hmem
        · exact absurd (hi heq.symm) (Nat.ne_of_lt hk)
        · exact hlt hmem hk
    · obtain ⟨rfl, hne⟩ := Classical.not_imp.1 hi
      have hk : i < as.length := Nat.lt_of_le_of_ne h.le hne
      obtain ⟨k₁, budget₁, hstep, hless⟩ := h.advance_turn hc ho hk
      obtain ⟨k', budget', hafter, hle, -⟩ := ih hstep ho'
      exact ⟨k', budget', hafter, Nat.le_of_lt (Nat.lt_of_le_of_lt hle hless),
        fun _ _ => Nat.lt_of_le_of_lt hle hless⟩

/-- In every round a step is made, as long as there is one to make. -/
theorem round (h : InTurn c crew directory key overlay e s as f k (budget + 1)) (hc : c.Responsive)
    (ho : f.Orderly) : ∃ k', InTurn c crew directory key overlay e s as (f.round c crew) k' budget := by
  rcases Nat.lt_or_eq_of_le h.le with hlt | heq
  · obtain ⟨k', budget', hafter, -, hless⟩ := h.advances hc ho (List.range f.jobs.length)
    have hmem : k ∈ List.range f.jobs.length := by rwa [List.mem_range, h.length]
    exact ⟨k', hafter.mono (Nat.le_of_lt_succ (hless hmem hlt))⟩
  · obtain ⟨k', budget', hafter, hle, -⟩ :=
      (h.exhausted heq budget).advances hc ho (List.range f.jobs.length)
    exact ⟨k', hafter.mono hle⟩

theorem rounds (h : InTurn c crew directory key overlay e s as f k budget) (hc : c.Responsive)
    (ho : f.Orderly) : ∃ k', InTurn c crew directory key overlay e s as (f.rounds c crew budget) k' 0 := by
  induction budget generalizing f k with
  | zero => exact ⟨k, h⟩
  | succ budget ih =>
    obtain ⟨k', hround⟩ := h.round hc ho
    exact ih hround (ho.moves c crew _)

theorem settle (h : InTurn c crew directory key overlay e s as f k (as.length * stepsOf crew))
    (hc : c.Responsive) (ho : f.Orderly) :
    InTurn c crew directory key overlay e s as (f.settle c crew) as.length 0 := by
  rw [← h.length] at h
  obtain ⟨k', hafter⟩ := h.rounds hc ho
  rwa [hafter.eq_length] at hafter

end InTurn

/-- The passes that moves start. -/
def startsOf (ms : List Move) : List Job :=
  ms.filterMap fun
    | .start job => some job
    | _ => none

section

variable {c : Collaborators σ} {crew : Crew} {directory : Path} {key : String}
  {overlay : OverlayId} {e : Editor} {s : σ} {f : Floor σ}

theorem InTurn.moves {as : List Assignment} {k : Nat}
    (h : InTurn c crew directory key overlay e s as f k (as.length * stepsOf crew)) (hc : c.Responsive)
    (ho : f.Orderly) (more : List Assignment)
    (hmore : ∀ a ∈ more, Job.key ⟨directory, a, overlay⟩ = key) {ms : List Move}
    (hstarts : startsOf ms = more.map fun a => ⟨directory, a, overlay⟩)
    (hcancel : ∀ pass, .cancel pass ∉ ms) :
    ∃ k', InTurn c crew directory key overlay e s (as ++ more) (f.moves c crew ms) k'
      ((as ++ more).length * stepsOf crew) := by
  induction ms generalizing as f k more with
  | nil =>
    rw [List.map_eq_nil_iff.1 hstarts.symm, List.append_nil]
    exact ⟨k, h⟩
  | cons m ms ih =>
    have hcancel' : ∀ pass, .cancel pass ∉ ms :=
      fun pass hmem => hcancel pass (List.mem_cons_of_mem _ hmem)
    have ho' : (f.move c crew m).Orderly := ho.happens (happens_move c crew f m)
    cases m with
    | start job =>
      obtain ⟨a, more, rfl, rfl, hrest⟩ := List.map_eq_cons_iff.1 hstarts.symm
      rw [List.forall_mem_cons] at hmore
      have hstart := h.start hmore.1
      have hlength : (as ++ [a]).length = as.length.succ := List.length_append
      rw [← Nat.succ_mul, ← hlength] at hstart
      obtain ⟨k', hafter⟩ := ih hstart ho' more hmore.2 hrest.symm hcancel'
      rw [List.append_assoc] at hafter
      exact ⟨k', hafter⟩
    | advance pass =>
      obtain ⟨k', budget', hstep, hle, -⟩ := h.advances hc ho [pass]
      exact ih (hstep.mono hle) ho' more hmore hstarts hcancel'
    | cancel pass => exact absurd List.mem_cons_self (hcancel pass)

/-- All passes have ended as they do one after the other, and left what they leave then. -/
structure EndedInTurn (c : Collaborators σ) (crew : Crew) (directory : Path)
    (overlay : OverlayId) (e : Editor) (s : σ) (as : List Assignment) (f : Floor σ) : Prop where
  jobs : f.jobs = (as.map fun a => (⟨directory, a, overlay⟩ : Job)).zip
    ((runInTurn c crew overlay as e s).1.map .ended)
  editor : f.editor = (runInTurn c crew overlay as e s).2.1
  outside : f.outside = (runInTurn c crew overlay as e s).2.2

theorem InTurn.endedInTurn {as : List Assignment} {budget : Nat}
    (h : InTurn c crew directory key overlay e s as f as.length budget) :
    EndedInTurn c crew directory overlay e s as f := by
  obtain ⟨heditor, houtside⟩ := h.allEnded rfl
  refine ⟨List.ext_getElem? fun i => ?_, heditor, houtside⟩
  rcases Nat.lt_or_ge i as.length with hlt | hge
  · have hsome := List.getElem?_eq_getElem hlt
    obtain ⟨ending, hending, hat⟩ := h.ended hlt hsome
    rw [List.take_length] at hending
    rw [hat, eq_comm, List.getElem?_zip_eq_some]
    exact ⟨by rw [List.getElem?_map, hsome]; rfl, by rw [List.getElem?_map, hending]; rfl⟩
  · rw [List.getElem?_eq_none (h.length ▸ hge), List.getElem?_eq_none]
    simpa [length_runInTurn] using hge

/-- If all passes have ended, there is no turn left. -/
theorem InTurn.eq_length_of_ended {as : List Assignment} {k budget : Nat}
    (h : InTurn c crew directory key overlay e s as f k budget)
    (hended : ∀ (pass : Nat) (job : Job) (stage : Stage),
      f.jobs[pass]? = some (job, stage) → stage.lock? = none) : k = as.length := by
  rcases Nat.lt_or_eq_of_le h.le with hlt | heq
  · obtain ⟨stage, left, hat, hway, -⟩ := h.turn (List.getElem?_eq_getElem hlt)
    obtain ⟨lock, hlock⟩ := hway.lock?
    rw [hended k _ stage hat] at hlock
    cases hlock
  · exact heq

end

/-- **Passes side by side are passes one after the other.** Start any passes on one document and one
overlay, and advance them in any order. It is one document if its names resolve to one path in the
working directory; without links that is told by the names alone. Once all have ended, they have
ended as if each had been run after the one before it, with the same editor, the same requests in
the same order and the same state outside; and they all end if they are advanced for long enough.
The requests are those of the first pass, then those of the second, and so on; for each, the runs of
tools are a first part of its plan, and all of it if there is a report. -/
theorem passes_take_turns {c : Collaborators σ} (hc : c.Responsive) (crew : Crew)
    (directory : Path) (key : String) (overlay : OverlayId) (e : Editor) (s : σ)
    (as : List Assignment) (hplace : ∀ a ∈ as, Job.key ⟨directory, a, overlay⟩ = key)
    {ms : List Move} (hstarts : startsOf ms = as.map fun a => ⟨directory, a, overlay⟩)
    (hcancel : ∀ pass, .cancel pass ∉ ms) :
    let f := (Floor.begin e (s, [])).moves c.logged crew ms
    let inTurn := runInTurn c.logged crew overlay as e (s, [])
    ((∀ (pass : Nat) (job : Job) (stage : Stage),
        f.jobs[pass]? = some (job, stage) → stage.lock? = none) →
      EndedInTurn c.logged crew directory overlay e (s, []) as f) ∧
      EndedInTurn c.logged crew directory overlay e (s, []) as (f.settle c.logged crew) ∧
      ∃ traces : List (List Asked), inTurn.2.2.2 = traces.flatten ∧ traces.length = as.length ∧
        ∀ (i : Nat) (a : Assignment) (trace : List Asked) (ending : Ending PassReport),
          as[i]? = some a → traces[i]? = some trace → inTurn.1[i]? = some ending →
            toolsAsked trace <+: crew.plan a ∧
              (ending.isDone = true → toolsAsked trace = crew.plan a) := by
  intro f inTurn
  have horder : (Floor.begin e (s, ([] : List Asked))).Orderly := .begin e _
  have hbegin : InTurn c.logged crew directory key overlay e (s, []) [] (Floor.begin e (s, [])) 0
      (([] : List Assignment).length * stepsOf crew) := InTurn.begin.mono (Nat.zero_le _)
  obtain ⟨k, hturn⟩ := hbegin.moves hc.logged horder as hplace hstarts hcancel
  have hf : f.Orderly := horder.moves c.logged crew ms
  refine ⟨?_, (hturn.settle hc.logged hf).endedInTurn, ?_⟩
  · intro hended
    have hk := hturn.eq_length_of_ended hended
    rw [hk] at hturn
    exact hturn.endedInTurn
  · exact log_runInTurn as e s []

/-- Two passes that name their document differently, of which the second tries to go ahead, with a
tool that breaks off when first asked. -/
theorem passes_take_turns_two :
    let c : Collaborators Nat :=
      ⟨fun argv n => if n = 0 then (.crash (.error "RuntimeError" "gone"), 1)
        else (.answer (.ok ⟨argv, 0, "", ""⟩), n + 1), fun _ n => (.crash (.error "" ""), n)⟩
    let crew : Crew := ⟨"yamale", [.yaml "yamllint"], false, .reject, []⟩
    let a : Assignment := ⟨.ofText "v.yml", some (.ofText "s.yml"), ⟨none, none, none, none⟩, none⟩
    let b : Assignment := { a with document := .ofText "/ws/vars/../v.yml", schema := none }
    let e : Editor := ((Editor.empty.addSurface (.ofLines ["a:"])).1.addOverlay 0).1
    let f := (Floor.begin e (0, [])).moves c.logged crew
      [.start ⟨⟨"/", ["ws"]⟩, a, 0⟩, .start ⟨⟨"/", ["ws"]⟩, b, 0⟩, .advance 1, .advance 0]
    EndedInTurn c.logged crew ⟨"/", ["ws"]⟩ 0 e (0, []) [a, b] (f.settle c.logged crew) ∧
      ∃ traces : List (List Asked),
        (runInTurn c.logged crew 0 [a, b] e (0, [])).2.2.2 = traces.flatten ∧
          traces.length = 2 := by
  intro c crew a b e f
  have hc : c.Responsive := by
    refine ⟨fun argv n => ?_, fun prompt n => ?_⟩
    · dsimp only [c]
      split <;> exact nofun
    · exact nofun
  have hcancel : ∀ pass, .cancel pass ∉
      [Move.start ⟨⟨"/", ["ws"]⟩, a, 0⟩, .start ⟨⟨"/", ["ws"]⟩, b, 0⟩, .advance 1,
        .advance 0] := by
    intro pass hmem
    simp only [List.mem_cons, List.not_mem_nil, reduceCtorEq, or_self] at hmem
  obtain ⟨-, hsettled, traces, hlog, hlength, -⟩ :=
    passes_take_turns hc crew ⟨"/", ["ws"]⟩ "/ws/v.yml" 0 e 0 [a, b] (by decide) rfl hcancel
  exact ⟨hsettled, traces, hlog, hlength⟩

end VarsAdvisor.Floor

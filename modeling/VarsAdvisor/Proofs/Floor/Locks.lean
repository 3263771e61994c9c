import VarsAdvisor.Pass.Locks
import VarsAdvisor.Proofs.Table

/-!
# Locks by reference counting

The locks of documents are tied to the passes that use each document, in the order in which these
came: a document has a lock and a count exactly as long as it has users, the count is their number,
and they are the line for the lock (`Locks.Serves`). Entering adds a user at the end, on the lock
that the others are in line for (`Serves.enter`); leaving takes one out, from wherever it stands
(`Serves.leave`). So a lock is neither dropped nor replaced while there is a user.
-/

namespace VarsAdvisor.Locks

/-- `users key` are the passes that use the document `key`, the earliest first. -/
structure Serves (l : Locks) (users : String → List Nat) : Prop where
  keys : l.locks.keys = l.users.keys
  nodup : l.users.keys.Nodup
  count : ∀ key, l.users.get? key = if users key = [] then none else some (users key).length
  line : ∀ {key lock}, l.locks.get? key = some lock → l.line lock = users key
  distinct : ∀ {key key' lock}, l.locks.get? key = some lock → l.locks.get? key' = some lock →
    key = key'
  issued : ∀ {key lock}, l.locks.get? key = some lock → lock < l.nextLock
  unused : ∀ {lock}, l.nextLock ≤ lock → l.line lock = []

/-- With another list of users for one document. -/
def assign (users : String → List Nat) (key : String) (passes : List Nat) : String → List Nat :=
  fun k => if k = key then passes else users k

/-! ## One operation on a line -/

theorem line_put (l : Locks) (lock lock' : LockId) (passes : List Nat) :
    ({ l with lines := l.lines.put lock passes } : Locks).line lock' =
      if lock = lock' then passes else l.line lock' := by
  unfold line
  rw [Table.get?_put]
  split <;> rfl

theorem line_leaveLine (l : Locks) (lock lock' : LockId) (pass : Nat) :
    (l.leaveLine lock pass).line lock' =
      if lock = lock' then (l.line lock).filter (· != pass) else l.line lock' := by
  unfold leaveLine
  dsimp only
  split
  · next hempty =>
    rw [List.isEmpty_iff.1 hempty]
    unfold line
    rw [Table.get?_erase]
    split <;> rfl
  · exact line_put l lock lock' _

/-! ## Entering, by whether the document has a lock -/

theorem enter_of_some {l : Locks} {key : String} {lock : LockId}
    (h : l.locks.get? key = some lock) (pass : Nat) :
    l.enter key pass =
      ({ l with
          users := l.users.put key (l.userCount key + 1)
          lines := l.lines.put lock (l.line lock ++ [pass]) },
        lock) := by
  simp only [enter, lockOf, h]

theorem enter_of_none {l : Locks} {key : String} (h : l.locks.get? key = none) (pass : Nat) :
    l.enter key pass =
      ({ locks := l.locks.put key l.nextLock
         users := l.users.put key (l.userCount key + 1)
         lines := l.lines.put l.nextLock (l.line l.nextLock ++ [pass])
         nextLock := l.nextLock + 1 },
        l.nextLock) := by
  simp only [enter, lockOf, h]
  rfl

/-- The pass that enters refers to the lock that its document has from then on. -/
theorem get?_enter (l : Locks) (key : String) (pass : Nat) :
    (l.enter key pass).1.locks.get? key = some (l.enter key pass).2 := by
  cases h : l.locks.get? key with
  | some lock =>
    rw [enter_of_some h]
    exact h
  | none =>
    rw [enter_of_none h]
    exact (Table.get?_put _ _ _ _).trans (if_pos rfl)

/-- A lock that a document has is not replaced when a pass enters. -/
theorem get?_enter_of_some {l : Locks} {key key' : String} {lock : LockId}
    (h : l.locks.get? key' = some lock) (pass : Nat) :
    (l.enter key pass).1.locks.get? key' = some lock := by
  cases hkey : l.locks.get? key with
  | some lock' =>
    rw [enter_of_some hkey]
    exact h
  | none =>
    have hne : key ≠ key' := by
      rintro rfl
      rw [h] at hkey
      cases hkey
    rw [enter_of_none hkey]
    exact (Table.get?_put _ _ _ _).trans ((if_neg hne).trans h)

namespace Serves

variable {l : Locks} {users : String → List Nat}

theorem empty : Locks.empty.Serves fun _ => [] := by
  refine ⟨rfl, List.nodup_nil, fun _ => rfl, ?_, ?_, ?_, fun _ => rfl⟩
  · intro key lock h
    cases h
  · intro key key' lock h
    cases h
  · intro key lock h
    cases h

/-- The documents with a count are those with users. -/
theorem mem_keys_iff (h : l.Serves users) (key : String) : key ∈ l.users.keys ↔ users key ≠ [] := by
  rw [Table.mem_keys_iff, h.count]
  by_cases hnil : users key = [] <;> simp [hnil]

theorem get?_eq_none_iff (h : l.Serves users) (key : String) :
    l.locks.get? key = none ↔ users key = [] := by
  rw [Table.get?_eq_none_iff, h.keys, h.mem_keys_iff, Decidable.not_not]

theorem userCount_eq (h : l.Serves users) (key : String) :
    l.userCount key = (users key).length := by
  unfold userCount
  rw [h.count]
  by_cases hnil : users key = []
  · rw [if_pos hnil, hnil]
    rfl
  · rw [if_neg hnil]
    rfl

/-! ## Entering -/

/-- A further user of a document that has a lock. -/
theorem join (h : l.Serves users) {key : String} {lock : LockId}
    (hlock : l.locks.get? key = some lock) (pass : Nat) :
    ({ l with
      users := l.users.put key (l.userCount key + 1)
      lines := l.lines.put lock (l.line lock ++ [pass]) } : Locks).Serves
      (assign users key (users key ++ [pass])) := by
  have hkey : key ∈ l.users.keys := h.keys ▸ Table.mem_keys_of_get? hlock
  refine ⟨?_, Table.nodup_keys_put h.nodup _ _, ?_, ?_, h.distinct, h.issued, ?_⟩
  · dsimp only
    rw [Table.keys_put, if_pos hkey, h.keys]
  · intro key'
    dsimp only
    rw [Table.get?_put, h.userCount_eq]
    by_cases hk : key = key'
    · subst hk
      simp [assign]
    · rw [if_neg hk, h.count]
      simp only [assign, if_neg (Ne.symm hk)]
  · intro key' lock' hlock'
    refine (line_put l lock lock' _).trans ?_
    by_cases hk : key = key'
    · subst hk
      have heq : lock = lock' := Option.some.inj (hlock.symm.trans hlock')
      rw [if_pos heq, h.line hlock]
      simp [assign]
    · have hne : lock ≠ lock' := by
        rintro rfl
        exact hk (h.distinct hlock hlock')
      rw [if_neg hne, h.line hlock']
      simp only [assign, if_neg (Ne.symm hk)]
  · intro lock' hge
    refine (line_put l lock lock' _).trans ?_
    rw [if_neg (Nat.ne_of_lt (Nat.lt_of_lt_of_le (h.issued hlock) hge))]
    exact h.unused hge

/-- The first user of a document gets a lock that nobody has had before. -/
theorem found (h : l.Serves users) {key : String} (hnone : l.locks.get? key = none) (pass : Nat) :
    ({ locks := l.locks.put key l.nextLock
       users := l.users.put key (l.userCount key + 1)
       lines := l.lines.put l.nextLock (l.line l.nextLock ++ [pass])
       nextLock := l.nextLock + 1 } : Locks).Serves
      (assign users key (users key ++ [pass])) := by
  have hnil : users key = [] := (h.get?_eq_none_iff key).1 hnone
  have hkey : key ∉ l.users.keys := h.keys ▸ (Table.get?_eq_none_iff _ _).1 hnone
  have hput : ∀ {key' lock'}, (l.locks.put key l.nextLock).get? key' = some lock' →
      (key = key' ∧ lock' = l.nextLock) ∨ (key ≠ key' ∧ l.locks.get? key' = some lock') := by
    intro key' lock' h'
    rw [Table.get?_put] at h'
    by_cases hk : key = key'
    · rw [if_pos hk] at h'
      exact .inl ⟨hk, (Option.some.inj h').symm⟩
    · rw [if_neg hk] at h'
      exact .inr ⟨hk, h'⟩
  refine ⟨?_, Table.nodup_keys_put h.nodup _ _, ?_, ?_, ?_, ?_, ?_⟩
  · dsimp only
    rw [Table.keys_put, Table.keys_put, h.keys, if_neg hkey]
  · intro key'
    dsimp only
    rw [Table.get?_put, h.userCount_eq]
    by_cases hk : key = key'
    · subst hk
      simp [assign]
    · rw [if_neg hk, h.count]
      simp only [assign, if_neg (Ne.symm hk)]
  · intro key' lock' hlock'
    refine (line_put l l.nextLock lock' _).trans ?_
    obtain ⟨rfl, rfl⟩ | ⟨hk, hold⟩ := hput hlock'
    · rw [if_pos rfl, h.unused (Nat.le_refl _)]
      simp [assign, hnil]
    · rw [if_neg (Nat.ne_of_gt (h.issued hold)), h.line hold]
      simp only [assign, if_neg (Ne.symm hk)]
  · intro key₁ key₂ lock' h₁ h₂
    obtain ⟨rfl, rfl⟩ | ⟨hk₁, hold₁⟩ := hput h₁
    · obtain ⟨hk₂, -⟩ | ⟨hk₂, hold₂⟩ := hput h₂
      · exact hk₂
      · exact absurd (h.issued hold₂) (Nat.lt_irrefl _)
    · obtain ⟨rfl, rfl⟩ | ⟨hk₂, hold₂⟩ := hput h₂
      · exact absurd (h.issued hold₁) (Nat.lt_irrefl _)
      · exact h.distinct hold₁ hold₂
  · intro key' lock' hlock'
    obtain ⟨-, rfl⟩ | ⟨-, hold⟩ := hput hlock'
    · exact Nat.lt_succ_self _
    · exact Nat.lt_succ_of_lt (h.issued hold)
  · intro lock' hge
    refine (line_put l l.nextLock lock' _).trans ?_
    rw [if_neg (Nat.ne_of_lt hge)]
    exact h.unused (Nat.le_of_succ_le hge)

/-- A pass that enters is the last user of its document. -/
theorem enter (h : l.Serves users) (key : String) (pass : Nat) :
    (l.enter key pass).1.Serves (assign users key (users key ++ [pass])) := by
  cases hlock : l.locks.get? key with
  | some lock =>
    rw [enter_of_some hlock]
    exact h.join hlock pass
  | none =>
    rw [enter_of_none hlock]
    exact h.found hlock pass

/-! ## Leaving -/

/-- A pass that leaves gives back its place in line and its share of the count. The lock goes with
the last user. -/
theorem leave (h : l.Serves users) {key : String} {lock : LockId}
    (hlock : l.locks.get? key = some lock) {pass : Nat} (hmem : pass ∈ users key)
    (hnodup : (users key).Nodup) :
    (l.leave key lock pass).Serves (assign users key ((users key).filter (· != pass))) := by
  let rest := (users key).filter (· != pass)
  have hcount : (l.leaveLine lock pass).userCount key - 1 = rest.length := by
    have hcounted : (l.leaveLine lock pass).userCount key = (users key).length := h.userCount_eq key
    rw [hcounted, ← List.length_erase_of_mem hmem, hnodup.erase_eq_filter]
  have hline : ∀ {key' lock'}, l.locks.get? key' = some lock' →
      (l.leaveLine lock pass).line lock' = assign users key rest key' := by
    intro key' lock' hlock'
    rw [line_leaveLine]
    by_cases hk : key' = key
    · subst hk
      have heq : lock = lock' := Option.some.inj (hlock.symm.trans hlock')
      rw [if_pos heq, h.line hlock]
      simp [assign, rest]
    · have hne : lock ≠ lock' := by
        rintro rfl
        exact hk (h.distinct hlock' hlock)
      rw [if_neg hne, h.line hlock']
      simp only [assign, if_neg hk]
  have hunused : ∀ {lock'}, l.nextLock ≤ lock' → (l.leaveLine lock pass).line lock' = [] := by
    intro lock' hge
    rw [line_leaveLine, if_neg (Nat.ne_of_lt (Nat.lt_of_lt_of_le (h.issued hlock) hge))]
    exact h.unused hge
  unfold Locks.leave dropUser
  rw [hcount]
  by_cases hnil : rest.length = 0
  · rw [if_pos hnil]
    have herase : ∀ {key' lock'}, (l.locks.erase key).get? key' = some lock' →
        l.locks.get? key' = some lock' := by
      intro key' lock' h'
      rw [Table.get?_erase] at h'
      split at h'
      · cases h'
      · exact h'
    refine ⟨?_, Table.nodup_keys_erase h.nodup _, ?_, fun h' => hline (herase h'),
      fun h₁ h₂ => h.distinct (herase h₁) (herase h₂), fun h' => h.issued (herase h'), hunused⟩
    · exact (Table.keys_erase _ _).trans ((congrArg _ h.keys).trans (Table.keys_erase _ _).symm)
    · intro key'
      refine (Table.get?_erase _ _ _).trans ?_
      by_cases hk : key = key'
      · subst hk
        simp [assign, rest, List.eq_nil_of_length_eq_zero hnil]
      · rw [if_neg hk]
        simp only [assign, if_neg (Ne.symm hk)]
        exact h.count key'
  · rw [if_neg hnil]
    have hkey : key ∈ l.users.keys := h.keys ▸ Table.mem_keys_of_get? hlock
    refine ⟨?_, Table.nodup_keys_put h.nodup _ _, ?_, hline, h.distinct, h.issued, hunused⟩
    · exact h.keys.trans ((Table.keys_put _ _ _).trans (if_pos hkey)).symm
    · intro key'
      refine (Table.get?_put _ _ _ _).trans ?_
      by_cases hk : key = key'
      · subst hk
        have hne : rest ≠ [] := fun h' => hnil (congrArg List.length h')
        simp only [assign, if_true]
        rw [if_neg hne]
      · rw [if_neg hk]
        simp only [assign, if_neg (Ne.symm hk)]
        exact h.count key'

end Serves

/-- When a pass leaves, each document keeps its lock or loses it, but gets no other. -/
theorem get?_leave (l : Locks) (key : String) (lock : LockId) (pass : Nat) (key' : String) :
    (l.leave key lock pass).locks.get? key' = none ∨
      (l.leave key lock pass).locks.get? key' = l.locks.get? key' := by
  unfold leave dropUser
  dsimp only
  split
  · by_cases hk : key = key'
    · exact .inl ((Table.get?_erase _ _ _).trans (if_pos hk))
    · exact .inr ((Table.get?_erase _ _ _).trans (if_neg hk))
  · exact .inr rfl

end VarsAdvisor.Locks

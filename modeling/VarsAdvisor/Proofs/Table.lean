import Mathlib.Data.List.Nodup
import VarsAdvisor.Table

/-!
# Keys of tables

Insertion keeps the order of the keys and appends a new one (`keys_put`), removal filters them
(`keys_erase`). A table whose keys are distinct is determined by its lookups: the entries are the
pairs that a lookup finds (`mem_iff_get?`).
-/

namespace VarsAdvisor.Table

variable {α β : Type} [DecidableEq α]

theorem mem_keys_iff (t : Table α β) (k : α) : k ∈ t.keys ↔ (t.get? k).isSome := by
  rw [← not_iff_not, ← get?_eq_none_iff, Option.not_isSome_iff_eq_none]

theorem mem_keys_of_get? {t : Table α β} {k : α} {v : β} (h : t.get? k = some v) :
    k ∈ t.keys := by
  rw [mem_keys_iff, h]
  rfl

theorem keys_put (t : Table α β) (k : α) (v : β) :
    (t.put k v).keys = if k ∈ t.keys then t.keys else t.keys ++ [k] := by
  induction t with
  | nil => simp [put, keys]
  | cons head rest ih =>
    obtain ⟨j, w⟩ := head
    unfold keys at ih ⊢
    by_cases h : j = k
    · simp [put, h]
    · have h' : k ≠ j := Ne.symm h
      simp only [put, if_neg h, List.map_cons, ih, List.mem_cons, h', false_or]
      split <;> simp

theorem put_of_not_mem {t : Table α β} {k : α} (h : k ∉ t.keys) (v : β) :
    t.put k v = t ++ [(k, v)] := by
  induction t with
  | nil => rfl
  | cons head rest ih =>
    obtain ⟨j, w⟩ := head
    simp only [keys, List.map_cons, List.mem_cons, not_or] at h
    rw [put, if_neg (Ne.symm h.1), ih h.2, List.cons_append]

theorem keys_erase (t : Table α β) (k : α) : (t.erase k).keys = t.keys.filter (· ≠ k) := by
  unfold keys erase
  rw [List.filter_map]
  rfl

/-- Without a key that it does not have, a table is the same. -/
theorem erase_of_not_mem {t : Table α β} {k : α} (h : k ∉ t.keys) : t.erase k = t := by
  refine List.filter_eq_self.2 fun p hp => decide_eq_true ?_
  rintro rfl
  exact h (List.mem_map_of_mem hp)

/-- Taking a new key off again undoes its insertion. -/
theorem erase_put {t : Table α β} {k : α} (h : k ∉ t.keys) (v : β) : (t.put k v).erase k = t := by
  have ht := erase_of_not_mem h
  unfold erase at ht ⊢
  rw [put_of_not_mem h, List.filter_append, ht]
  simp

theorem nodup_keys_put {t : Table α β} (h : t.keys.Nodup) (k : α) (v : β) :
    (t.put k v).keys.Nodup := by
  rw [keys_put]
  split
  · exact h
  · next hk =>
    refine List.nodup_append.2 ⟨h, List.nodup_singleton k, ?_⟩
    intro a ha b hb hab
    rw [List.mem_singleton.1 hb] at hab
    exact hk (hab ▸ ha)

theorem nodup_keys_erase {t : Table α β} (h : t.keys.Nodup) (k : α) : (t.erase k).keys.Nodup := by
  rw [keys_erase]
  exact h.filter _

theorem mem_of_get? {t : Table α β} {k : α} {v : β} (h : t.get? k = some v) : (k, v) ∈ t := by
  induction t with
  | nil => simp at h
  | cons head rest ih =>
    obtain ⟨j, w⟩ := head
    rw [get?] at h
    split at h
    · next hj =>
      cases h
      rw [hj]
      exact List.mem_cons_self
    · exact List.mem_cons_of_mem _ (ih h)

theorem mem_iff_get? {t : Table α β} (hn : t.keys.Nodup) {k : α} {v : β} :
    (k, v) ∈ t ↔ t.get? k = some v := by
  refine ⟨fun h => ?_, mem_of_get?⟩
  induction t with
  | nil => cases h
  | cons head rest ih =>
    obtain ⟨j, w⟩ := head
    have hj : j ∉ rest.map (·.1) ∧ (rest.map (·.1)).Nodup := List.nodup_cons.1 hn
    rw [get?]
    rcases List.mem_cons.1 h with heq | hrest
    · cases heq
      rw [if_pos rfl]
    · have hne : j ≠ k := by
        rintro rfl
        exact hj.1 (List.mem_map_of_mem (f := (·.1)) hrest)
      rw [if_neg hne]
      exact ih hj.2 hrest

/-! ## Changed values -/

theorem get?_map {γ : Type} (t : Table α β) (f : β → γ) (k : α) :
    get? (t.map fun p => (p.1, f p.2)) k = (t.get? k).map f := by
  induction t with
  | nil => rfl
  | cons head rest ih =>
    rw [List.map_cons, get?, get?]
    split
    · rfl
    · exact ih

theorem map_put {γ : Type} (t : Table α β) (f : β → γ) (k : α) (v : β) :
    (t.put k v).map (fun p => (p.1, f p.2)) = put (t.map fun p => (p.1, f p.2)) k (f v) := by
  induction t with
  | nil => rfl
  | cons head rest ih =>
    rw [List.map_cons, put, put]
    split
    · rw [List.map_cons]
    · rw [List.map_cons, ih]

/-- A table without keys is empty. -/
theorem eq_nil_of_get? {t : Table α β} (h : ∀ k, t.get? k = none) : t = [] := by
  cases t with
  | nil => rfl
  | cons head rest =>
    have := h head.1
    rw [get?, if_pos rfl] at this
    cases this

end VarsAdvisor.Table

/-!
# Tables

A table holds at most one value for each key, in the order in which the keys came in. Main
statements: what a lookup finds after an insertion or a removal, and what the keys are then.
-/

namespace VarsAdvisor

/-- Keys with their values, in order of insertion. -/
abbrev Table (α β : Type) := List (α × β)

namespace Table

variable {α β : Type} [DecidableEq α]

/-- The value of a key. -/
def get? (t : Table α β) (k : α) : Option β :=
  match t with
  | [] => none
  | (k', v) :: rest => if k' = k then some v else get? rest k

/-- The keys, in order. -/
def keys (t : Table α β) : List α :=
  t.map (·.1)

/-- Sets the value of a key. A new key comes last, a known one keeps its place. -/
def put (t : Table α β) (k : α) (v : β) : Table α β :=
  match t with
  | [] => [(k, v)]
  | (k', v') :: rest => if k' = k then (k, v) :: rest else (k', v') :: put rest k v

/-- Without a key. -/
def erase (t : Table α β) (k : α) : Table α β :=
  t.filter fun (k', _) => decide (k' ≠ k)

/-- The key has a value. -/
def has (t : Table α β) (k : α) : Bool :=
  (t.get? k).isSome

/-! ## Lookups after a change -/

@[simp] theorem get?_nil (k : α) : get? ([] : Table α β) k = none := rfl

theorem get?_put (t : Table α β) (k j : α) (v : β) :
    (t.put k v).get? j = if k = j then some v else t.get? j := by
  induction t with
  | nil => simp [put, get?]
  | cons head rest ih =>
    obtain ⟨i, w⟩ := head
    by_cases h : i = k <;> by_cases hj : k = j <;> grind [put, get?]

theorem get?_erase (t : Table α β) (k j : α) :
    (t.erase k).get? j = if k = j then none else t.get? j := by
  induction t with
  | nil => simp [erase, get?]
  | cons head rest ih =>
    obtain ⟨i, w⟩ := head
    unfold erase at ih ⊢
    by_cases h : i = k <;> by_cases hj : k = j <;> grind [get?]

theorem get?_eq_none_iff (t : Table α β) (k : α) : t.get? k = none ↔ k ∉ t.keys := by
  induction t with
  | nil => simp [get?, keys]
  | cons head rest ih =>
    obtain ⟨i, w⟩ := head
    by_cases h : i = k <;> simp_all [get?, keys, eq_comm]

end Table

end VarsAdvisor

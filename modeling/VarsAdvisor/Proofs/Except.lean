/-!
# Values and errors

What a composed computation that may fail says about its parts: each part of one that has a value
has a value (`except_bind_ok`, `except_mapM_ok_getElem?`), and one that fails does so by the error of
one of its parts (`except_bind_error`, `except_mapM_error`, `except_foldlM_error`).
-/

namespace VarsAdvisor

variable {ε ε' α β : Type}

theorem except_ok_bind (a : α) (f : α → Except ε β) : (.ok a >>= f) = f a :=
  rfl

theorem except_bind_ok {x : Except ε α} {f : α → Except ε β} {b : β} :
    x >>= f = .ok b ↔ ∃ a, x = .ok a ∧ f a = .ok b := by
  cases x with
  | error e => simp [bind, Except.bind]
  | ok a => simp [bind, Except.bind]

theorem except_bind_error {x : Except ε α} {f : α → Except ε β} {e : ε} :
    x >>= f = .error e ↔ x = .error e ∨ ∃ a, x = .ok a ∧ f a = .error e := by
  cases x with
  | error e' => simp [bind, Except.bind]
  | ok a => simp [bind, Except.bind]

theorem except_map_ok {x : Except ε α} {f : α → β} {b : β} :
    x.map f = .ok b ↔ ∃ a, x = .ok a ∧ f a = b := by
  cases x <;> simp [Except.map]

/-- What is made of the one value that a computation can have. -/
theorem except_bind_pure_ok_iff {x : Except ε α} {f : α → β} {P : Prop} {a : α} {b : β}
    (h : ∀ a', x = .ok a' ↔ P ∧ a' = a) :
    (x >>= fun a => pure (f a)) = .ok b ↔ P ∧ b = f a := by
  rw [except_bind_ok]
  constructor
  · rintro ⟨a', hx, hb⟩
    obtain ⟨hP, rfl⟩ := (h a').1 hx
    exact ⟨hP, (Except.ok.inj hb).symm⟩
  · rintro ⟨hP, rfl⟩
    exact ⟨a, (h a).2 ⟨hP, rfl⟩, rfl⟩

theorem except_map_error {x : Except ε α} {f : α → β} {e : ε} :
    x.map f = .error e ↔ x = .error e := by
  cases x <;> simp [Except.map]

theorem except_map_inj {f : α → β} (hf : ∀ a a', f a = f a' → a = a') {x y : Except ε α} :
    x.map f = y.map f ↔ x = y := by
  refine ⟨?_, congrArg _⟩
  cases x <;> cases y <;> simp [Except.map]
  exact hf _ _

theorem except_toOption_some {x : Except ε α} {a : α} : x.toOption = some a ↔ x = .ok a := by
  cases x <;> simp [Except.toOption]

@[simp] theorem except_ok_mapError (f : ε → ε') (a : α) :
    (Except.ok a : Except ε α).mapError f = .ok a := rfl

@[simp] theorem except_error_mapError (f : ε → ε') (e : ε) :
    (Except.error e : Except ε α).mapError f = .error (f e) := rfl

theorem except_mapError_ok {x : Except ε α} {f : ε → ε'} {a : α} :
    x.mapError f = .ok a ↔ x = .ok a := by
  cases x <;> simp

theorem except_mapError_error {x : Except ε α} {f : ε → ε'} {e' : ε'} :
    x.mapError f = .error e' ↔ ∃ e, x = .error e ∧ f e = e' := by
  cases x <;> simp

/-- A list of results that is right at each place is the result. -/
theorem except_mapM_ok_of_getElem? {f : α → Except ε β} {xs : List α} {ys : List β}
    (hlen : ys.length = xs.length)
    (h : ∀ (i : Nat) (x : α), xs[i]? = some x → ∃ y, f x = .ok y ∧ ys[i]? = some y) :
    xs.mapM f = .ok ys := by
  induction xs generalizing ys with
  | nil =>
    rw [List.eq_nil_of_length_eq_zero hlen]
    rfl
  | cons x xs ih =>
    obtain ⟨y, hy, hget⟩ := h 0 x rfl
    cases ys with
    | nil => cases hget
    | cons y' ys =>
      cases hget
      have hxs : xs.mapM f = .ok ys := by
        apply ih (Nat.succ.inj hlen)
        intro i z hz
        exact h (i + 1) z hz
      rw [List.mapM_cons, hy, hxs]
      rfl

/-- The result of a list is right at each place. -/
theorem except_mapM_ok_getElem? {f : α → Except ε β} {xs : List α} {ys : List β}
    (h : xs.mapM f = .ok ys) :
    ys.length = xs.length ∧
      ∀ (i : Nat) (x : α), xs[i]? = some x → ∃ y, f x = .ok y ∧ ys[i]? = some y := by
  induction xs generalizing ys with
  | nil =>
    cases h
    exact ⟨rfl, fun i x hx => by cases hx⟩
  | cons x xs ih =>
    rw [List.mapM_cons] at h
    obtain ⟨y, hy, h⟩ := except_bind_ok.1 h
    obtain ⟨rest, hrest, h⟩ := except_bind_ok.1 h
    cases h
    obtain ⟨hlen, hget⟩ := ih hrest
    refine ⟨congrArg (· + 1) hlen, ?_⟩
    intro i z hz
    cases i with
    | zero =>
      cases hz
      exact ⟨y, hy, rfl⟩
    | succ i => exact hget i z hz

theorem except_mapM_ok_mem {f : α → Except ε β} {xs : List α} {ys : List β}
    (h : xs.mapM f = .ok ys) {y : β} (hy : y ∈ ys) : ∃ x ∈ xs, f x = .ok y := by
  induction xs generalizing ys with
  | nil =>
    cases h
    cases hy
  | cons x xs ih =>
    rw [List.mapM_cons] at h
    obtain ⟨z, hz, h⟩ := except_bind_ok.1 h
    obtain ⟨zs, hzs, h⟩ := except_bind_ok.1 h
    cases h
    rcases List.mem_cons.1 hy with rfl | hy
    · exact ⟨x, List.mem_cons_self, hz⟩
    · obtain ⟨x', hx', hy⟩ := ih hzs hy
      exact ⟨x', List.mem_cons_of_mem x hx', hy⟩

theorem except_mapM_error {f : α → Except ε β} {xs : List α} {e : ε} (h : xs.mapM f = .error e) :
    ∃ x ∈ xs, f x = .error e := by
  induction xs with
  | nil => cases h
  | cons x xs ih =>
    rw [List.mapM_cons, except_bind_error] at h
    rcases h with hx | ⟨y, -, h⟩
    · exact ⟨x, List.mem_cons_self, hx⟩
    · rcases except_bind_error.1 h with hxs | ⟨ys, -, h⟩
      · obtain ⟨z, hz, he⟩ := ih hxs
        exact ⟨z, List.mem_cons_of_mem x hz, he⟩
      · cases h

theorem except_foldlM_error {f : β → α → Except ε β} {xs : List α} {b : β} {e : ε}
    (h : xs.foldlM f b = .error e) : ∃ b', ∃ x ∈ xs, f b' x = .error e := by
  induction xs generalizing b with
  | nil => cases h
  | cons x xs ih =>
    rw [List.foldlM_cons, except_bind_error] at h
    rcases h with hx | ⟨b₁, -, hxs⟩
    · exact ⟨b, x, List.mem_cons_self, hx⟩
    · obtain ⟨b', z, hz, he⟩ := ih hxs
      exact ⟨b', z, List.mem_cons_of_mem x hz, he⟩

end VarsAdvisor

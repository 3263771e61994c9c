import Mathlib.Data.List.Infix
import VarsAdvisor.Text.Search

/-!
# Where a text occurs in another

An occurrence does not reach across a character that the text does not hold
(`append_eq_append_cons`), so what occurs in two texts with such a character between them occurs in
one of the two (`infix_append_cons_iff`). Cutting at a separator gives what stands before and after
its first occurrence (`cutAt_eq_some_iff`).
-/

namespace VarsAdvisor.Text

variable {α : Type} {needle sep cs before after front back : List α} {d : α}

/-! ## Across a foreign character -/

/-- An occurrence lies before or behind a character that it does not hold. -/
theorem append_eq_append_cons (hd : d ∉ needle)
    (h : before ++ (needle ++ after) = front ++ d :: back) :
    (∃ rest, front = before ++ (needle ++ rest) ∧ after = rest ++ d :: back) ∨
      ∃ rest, back = rest ++ (needle ++ after) ∧ before = front ++ d :: rest := by
  rw [← List.append_assoc, List.append_eq_append_iff] at h
  rcases h with ⟨rest, hfront, hafter⟩ | ⟨rest, hbefore, hback⟩
  · exact .inl ⟨rest, by rw [hfront, List.append_assoc], hafter⟩
  · cases rest with
    | nil =>
      refine .inl ⟨[], ?_, hback.symm⟩
      rw [List.append_nil, hbefore, List.append_nil]
    | cons c rest =>
      obtain ⟨rfl, rfl⟩ := List.cons_eq_cons.1 hback
      -- The character is not in the text, so it is in what stands before it.
      rw [List.append_eq_append_iff] at hbefore
      rcases hbefore with ⟨part, -, rfl⟩ | ⟨part, rfl, hpart⟩
      · exact absurd (List.mem_append_right part List.mem_cons_self) hd
      · cases part with
        | nil =>
          rw [List.nil_append] at hpart
          exact absurd (hpart ▸ List.mem_cons_self) hd
        | cons c part =>
          obtain ⟨rfl, rfl⟩ := List.cons_eq_cons.1 hpart
          exact .inr ⟨part, List.append_assoc part needle after, rfl⟩

theorem infix_append_cons_iff (hd : d ∉ needle) :
    needle <:+: front ++ d :: back ↔ needle <:+: front ∨ needle <:+: back := by
  constructor
  · rintro ⟨before, after, h⟩
    rw [List.append_assoc] at h
    rcases append_eq_append_cons hd h with ⟨rest, rfl, -⟩ | ⟨rest, rfl, -⟩
    · exact .inl ⟨before, rest, List.append_assoc _ _ _⟩
    · exact .inr ⟨rest, after, List.append_assoc _ _ _⟩
  · rintro (h | h)
    · exact h.trans (List.prefix_append _ _).isInfix
    · exact h.trans ((List.suffix_cons _ _).trans (List.suffix_append _ _)).isInfix

theorem infix_cons_of_foreign (hne : needle ≠ []) (hd : d ∉ needle) :
    needle <:+: d :: back ↔ needle <:+: back := by
  have hcons := @infix_append_cons_iff α needle [] back d hd
  rwa [List.nil_append, List.infix_nil, or_iff_right hne] at hcons

/-- Foreign characters in front of a text make no difference to what occurs in it. -/
theorem infix_append_of_foreign (hne : needle ≠ []) (h : ∀ d ∈ front, d ∉ needle) :
    needle <:+: front ++ back ↔ needle <:+: back := by
  induction front with
  | nil => rfl
  | cons d r ih =>
    rw [List.forall_mem_cons] at h
    rw [List.cons_append, infix_cons_of_foreign hne h.1, ih h.2]

/-! ## The first occurrence -/

variable [DecidableEq α]

theorem cutAt_eq_append (h : cutAt sep cs = some (before, after)) :
    cs = before ++ (sep ++ after) := by
  induction cs generalizing before with
  | nil =>
    rw [cutAt] at h
    split at h
    · next hsep =>
      cases h
      rw [List.isEmpty_iff.1 hsep]
      rfl
    · cases h
  | cons c r ih =>
    rw [cutAt] at h
    split at h
    · next hsep =>
      cases h
      exact List.prefix_iff_eq_append.1 (List.isPrefixOf_iff_prefix.1 hsep) |>.symm
    · obtain ⟨⟨front, rest⟩, hr, hcons⟩ := Option.map_eq_some_iff.1 h
      cases hcons
      rw [ih hr]
      rfl

/-- Where a separator stands for the first time, the text is cut. -/
theorem cutAt_append (hfirst : ¬ sep <:+: before ++ sep.dropLast) (after : List α) :
    cutAt sep (before ++ (sep ++ after)) = some (before, after) := by
  have hne : sep ≠ [] := by
    rintro rfl
    exact hfirst List.nil_infix
  induction before with
  | nil =>
    obtain ⟨c, r, rfl⟩ := List.exists_cons_of_ne_nil hne
    rw [List.nil_append, List.cons_append, cutAt, if_pos, ← List.cons_append, List.drop_left]
    exact List.isPrefixOf_iff_prefix.2 (List.prefix_append _ _)
  | cons c r ih =>
    have hrest : ¬ sep <:+: r ++ sep.dropLast := fun h =>
      hfirst (h.trans (List.suffix_cons c _).isInfix)
    have hhere : ¬ sep <+: c :: (r ++ (sep ++ after)) := by
      intro h
      have hstart : c :: r ++ sep.dropLast <+: c :: (r ++ (sep ++ after)) := by
        rw [← List.cons_append, List.prefix_append_right_inj]
        exact (List.dropLast_prefix sep).trans (List.prefix_append sep after)
      have hlength : sep.length ≤ (c :: r ++ sep.dropLast).length := by
        simp only [List.length_append, List.length_cons, List.length_dropLast]
        omega
      exact hfirst (List.prefix_of_prefix_length_le h hstart hlength).isInfix
    rw [List.cons_append, cutAt, if_neg (fun h => hhere (List.isPrefixOf_iff_prefix.1 h)), ih hrest]
    rfl

/-- A text that holds a separator has a first one. -/
theorem exists_cutAt (h : sep <:+: cs) : ∃ before after, cutAt sep cs = some (before, after) := by
  induction cs with
  | nil =>
    rw [List.infix_nil.1 h]
    exact ⟨[], [], rfl⟩
  | cons c r ih =>
    rw [cutAt]
    split
    · exact ⟨_, _, rfl⟩
    · next hhere =>
      rw [List.isPrefixOf_iff_prefix] at hhere
      obtain ⟨before, after, hr⟩ := ih ((List.infix_cons_iff.1 h).resolve_left hhere)
      exact ⟨c :: before, after, by rw [hr, Option.map_some]⟩

/-- Before the place where a text is cut, the separator does not occur. -/
theorem not_infix_of_cutAt (hne : sep ≠ []) (h : cutAt sep cs = some (before, after)) :
    ¬ sep <:+: before ++ sep.dropLast := by
  induction cs generalizing before with
  | nil =>
    rw [cutAt, if_neg (by simp [hne])] at h
    cases h
  | cons c r ih =>
    rw [cutAt] at h
    split at h
    · cases h
      intro hpart
      have hlength := hpart.length_le
      have hpos := List.length_pos_of_ne_nil hne
      rw [List.nil_append, List.length_dropLast] at hlength
      omega
    · next hhere =>
      obtain ⟨⟨front, rest⟩, hr, hcons⟩ := Option.map_eq_some_iff.1 h
      cases hcons
      rw [List.cons_append, List.infix_cons_iff, not_or]
      refine ⟨fun hstart => hhere (List.isPrefixOf_iff_prefix.2 (hstart.trans ?_)), ih hr⟩
      rw [cutAt_eq_append hr, List.cons_prefix_cons, List.prefix_append_right_inj]
      exact ⟨rfl, (List.dropLast_prefix sep).trans (List.prefix_append sep after)⟩

theorem cutAt_eq_some_iff (hne : sep ≠ []) :
    cutAt sep cs = some (before, after) ↔
      cs = before ++ (sep ++ after) ∧ ¬ sep <:+: before ++ sep.dropLast := by
  refine ⟨fun h => ⟨cutAt_eq_append h, not_infix_of_cutAt hne h⟩, ?_⟩
  rintro ⟨rfl, h⟩
  exact cutAt_append h after

theorem cutAt_singleton_eq_some_iff :
    cutAt [d] cs = some (before, after) ↔ cs = before ++ d :: after ∧ d ∉ before := by
  rw [cutAt_eq_some_iff (List.cons_ne_nil d []), List.dropLast_singleton, List.append_nil,
    List.singleton_infix_iff]
  rfl

end VarsAdvisor.Text

import Mathlib.Data.List.Basic
import Mathlib.Data.List.TakeWhile
import VarsAdvisor.Text.Blank

/-!
# Trimmed texts

Trimming takes blanks away and nothing else: a text of blanks is trimmed to nothing
(`trim_of_blank`), and what is trimmed is blank only if the whole text is (`all_isBlank_trim`).
Behind blanks, a trimmed text starts with the first character that is not blank (`head?_trim`).

A text is left as it is if it is tight, without blanks at its ends (`trim_of_tight`), and what is
trimmed is tight (`isTight_trim`).
Trimming stops at a tight part (`trim_append`), and blanks around a text make no difference to it
(`trim_between`).
-/

namespace VarsAdvisor.Text

theorem dropTrailing_cons_of_neg {p : Char → Bool} {c : Char} (h : p c = false)
    (cs : List Char) : dropTrailing p (c :: cs) = c :: dropTrailing p cs := by
  have hdrop : ∀ ds : List Char, (ds ++ [c]).dropWhile p = ds.dropWhile p ++ [c] := by
    intro ds
    induction ds with
    | nil => simp [h]
    | cons d ds ih =>
      cases hd : p d with
      | true => simp [hd, ih]
      | false => simp [hd]
  unfold dropTrailing
  rw [List.reverse_cons, hdrop, List.reverse_append]
  rfl

theorem dropTrailing_concat_of_neg {p : Char → Bool} {c : Char} (h : p c = false)
    (cs : List Char) : dropTrailing p (cs ++ [c]) = cs ++ [c] := by
  simp [dropTrailing, h]

theorem dropTrailing_concat_of_pos {p : Char → Bool} {c : Char} (h : p c = true)
    (cs : List Char) : dropTrailing p (cs ++ [c]) = dropTrailing p cs := by
  simp [dropTrailing, h]

theorem trim_of_blank {cs : List Char} (h : cs.all isBlank = true) : trim cs = [] := by
  have hnone : trimStart cs = [] := List.dropWhile_eq_nil_iff.2 (List.all_eq_true.1 h)
  unfold trim
  rw [hnone]
  rfl

/-- Behind blanks, the first character of the trimmed text is the first that is not blank. -/
theorem head?_trim {indent : List Char} {c : Char} (hblank : ∀ b ∈ indent, isBlank b = true)
    (hc : isBlank c = false) (cs : List Char) : (trim (indent ++ c :: cs)).head? = some c := by
  have hstart : trimStart (indent ++ c :: cs) = c :: cs := by
    unfold trimStart
    rw [List.dropWhile_append_of_pos hblank, List.dropWhile_cons_of_neg (by simp [hc])]
  unfold trim trimEnd
  rw [hstart, dropTrailing_cons_of_neg hc]
  rfl

theorem all_dropWhile (p : Char → Bool) (cs : List Char) : (cs.dropWhile p).all p = cs.all p := by
  induction cs with
  | nil => rfl
  | cons c cs ih =>
    cases hc : p c with
    | true => rw [List.dropWhile_cons_of_pos hc, ih, List.all_cons, hc, Bool.true_and]
    | false => rw [List.dropWhile_cons_of_neg (by simp [hc])]

theorem all_dropTrailing (p : Char → Bool) (cs : List Char) :
    (dropTrailing p cs).all p = cs.all p := by
  unfold dropTrailing
  rw [List.all_reverse, all_dropWhile, List.all_reverse]

theorem all_isBlank_trim (cs : List Char) : (trim cs).all isBlank = cs.all isBlank := by
  unfold trim trimEnd trimStart
  rw [all_dropTrailing, all_dropWhile]

theorem isBlankText_trimmed (s : String) : isBlankText (trimmed s) = isBlankText s := by
  unfold isBlankText trimmed
  rw [String.toList_ofList, all_isBlank_trim]

/-- A trimmed text that is not empty has a character that is not blank. -/
theorem isBlankText_ofList_trim {cs : List Char} (h : String.ofList (trim cs) ≠ "") :
    isBlankText (String.ofList (trim cs)) = false := by
  rw [← Bool.not_eq_true]
  intro hblank
  unfold isBlankText at hblank
  rw [String.toList_ofList, all_isBlank_trim] at hblank
  rw [trim_of_blank hblank] at h
  exact h rfl

/-! ## Tight texts -/

theorem dropWhile_append_of_head {p : Char → Bool} {cs : List Char} (hne : cs ≠ [])
    (h : ∀ c ∈ cs.head?, p c = false) (front : List Char) :
    (front ++ cs).dropWhile p = front.dropWhile p ++ cs := by
  obtain ⟨c, r, rfl⟩ := List.exists_cons_of_ne_nil hne
  have hc : p c = false := h c rfl
  rw [List.dropWhile_append]
  split
  · next hfront =>
    rw [List.isEmpty_iff.1 hfront, List.nil_append, List.dropWhile_cons_of_neg (by simp [hc])]
  · rfl

theorem dropTrailing_append_of_last {p : Char → Bool} {cs : List Char} (hne : cs ≠ [])
    (h : ∀ c ∈ cs.getLast?, p c = false) (back : List Char) :
    dropTrailing p (cs ++ back) = cs ++ dropTrailing p back := by
  have hhead : ∀ c ∈ cs.reverse.head?, p c = false := by
    rw [List.head?_reverse]
    exact h
  unfold dropTrailing
  rw [List.reverse_append, dropWhile_append_of_head (by simpa using hne) hhead,
    List.reverse_append, List.reverse_reverse]

/-- No blank stands at either end of a text. -/
structure IsTight (cs : List Char) : Prop where
  first : ∀ c ∈ cs.head?, isBlank c = false
  last : ∀ c ∈ cs.getLast?, isBlank c = false

instance (cs : List Char) : Decidable (IsTight cs) :=
  decidable_of_iff (cs.head?.any isBlank = false ∧ cs.getLast?.any isBlank = false)
    ⟨fun h => ⟨(Option.any_eq_false _ _).1 h.1, (Option.any_eq_false _ _).1 h.2⟩,
      fun h => ⟨(Option.any_eq_false _ _).2 h.first, (Option.any_eq_false _ _).2 h.last⟩⟩

theorem isTight_nil : IsTight [] where
  first _ hc := nomatch hc
  last _ hc := nomatch hc

theorem IsTight.append_cons {front back : List Char} {c : Char} (hfront : IsTight front)
    (hc : isBlank c = false) (hback : IsTight back) : IsTight (front ++ c :: back) := by
  refine ⟨?_, ?_⟩
  · intro b hb
    cases front with
    | nil => exact Option.mem_some.1 hb ▸ hc
    | cons d r => exact hfront.first b hb
  · intro b hb
    rw [List.getLast?_append_cons] at hb
    cases back with
    | nil => exact Option.mem_some.1 hb ▸ hc
    | cons d r => exact hback.last b hb

/-- Trimming stops at a part that is tight. -/
theorem trim_append {core : List Char} (hne : core ≠ []) (h : IsTight core)
    (front back : List Char) :
    trim (front ++ (core ++ back)) = trimStart front ++ (core ++ trimEnd back) := by
  have hfirst : ∀ c ∈ (core ++ back).head?, isBlank c = false := by
    obtain ⟨c, r, rfl⟩ := List.exists_cons_of_ne_nil hne
    exact h.first
  have hstart : trimStart (front ++ (core ++ back)) = trimStart front ++ core ++ back := by
    unfold trimStart
    rw [dropWhile_append_of_head (by simp [hne]) hfirst, List.append_assoc]
  have hlast : ∀ c ∈ (trimStart front ++ core).getLast?, isBlank c = false := by
    rw [List.getLast?_append_of_ne_nil _ hne]
    exact h.last
  unfold trim trimEnd
  rw [hstart, dropTrailing_append_of_last (by simp [hne]) hlast, List.append_assoc]

theorem trim_of_tight {cs : List Char} (h : IsTight cs) : trim cs = cs := by
  by_cases hne : cs = []
  · rw [hne]
    rfl
  · simpa [trimStart, trimEnd, dropTrailing] using trim_append hne h [] []

theorem isTight_trim (cs : List Char) : IsTight (trim cs) := by
  have hfirst : ∀ c ∈ (trimStart cs).head?, isBlank c = false := by
    intro c hc
    have hnot := List.head?_dropWhile_not isBlank cs
    unfold trimStart at hc
    rw [Option.mem_def.1 hc] at hnot
    exact hnot
  refine ⟨?_, ?_⟩
  · -- The first character stays, unless nothing does.
    cases hstart : trimStart cs with
    | nil =>
      unfold trim
      rw [hstart]
      exact fun c hc => nomatch hc
    | cons c r =>
      rw [hstart] at hfirst
      unfold trim trimEnd
      rw [hstart, dropTrailing_cons_of_neg (hfirst c rfl)]
      exact hfirst
  · intro c hc
    have hnot := List.head?_dropWhile_not isBlank (trimStart cs).reverse
    unfold trim trimEnd dropTrailing at hc
    rw [List.getLast?_reverse] at hc
    rw [Option.mem_def.1 hc] at hnot
    exact hnot

/-- A text is what trimming leaves of it, between blanks. -/
theorem exists_eq_trim (cs : List Char) :
    ∃ front back, cs = front ++ (trim cs ++ back) ∧ (∀ c ∈ front, isBlank c = true) ∧
      ∀ c ∈ back, isBlank c = true := by
  refine ⟨cs.takeWhile isBlank, ((trimStart cs).reverse.takeWhile isBlank).reverse, ?_, ?_, ?_⟩
  · have hend : trim cs ++ ((trimStart cs).reverse.takeWhile isBlank).reverse = trimStart cs := by
      unfold trim trimEnd dropTrailing
      rw [← List.reverse_append, List.takeWhile_append_dropWhile, List.reverse_reverse]
    rw [hend]
    exact List.takeWhile_append_dropWhile.symm
  · exact fun c hc => List.mem_takeWhile_imp hc
  · exact fun c hc => List.mem_takeWhile_imp (List.mem_reverse.1 hc)

theorem trimStart_of_blank {cs : List Char} (h : ∀ c ∈ cs, isBlank c = true) : trimStart cs = [] :=
  List.dropWhile_eq_nil_iff.2 h

theorem trimEnd_of_blank {cs : List Char} (h : ∀ c ∈ cs, isBlank c = true) : trimEnd cs = [] := by
  unfold trimEnd dropTrailing
  rw [List.reverse_eq_nil_iff, List.dropWhile_eq_nil_iff]
  exact fun c hc => h c (List.mem_reverse.1 hc)

/-- Blanks around a text make no difference to what trimming leaves of it. -/
theorem trim_between {front back : List Char} (hfront : ∀ c ∈ front, isBlank c = true)
    (hback : ∀ c ∈ back, isBlank c = true) (cs : List Char) :
    trim (front ++ (cs ++ back)) = trim cs := by
  obtain ⟨front', back', hcs, hfront', hback'⟩ := exists_eq_trim cs
  by_cases hne : trim cs = []
  · rw [hne, List.nil_append] at hcs
    rw [hne, hcs]
    apply trim_of_blank
    rw [List.all_eq_true]
    intro c hc
    simp only [List.mem_append] at hc
    grind
  · have hmore : front ++ (cs ++ back) = front ++ front' ++ (trim cs ++ (back' ++ back)) := by
      rw [List.append_assoc, ← List.append_assoc (trim cs), ← List.append_assoc front', ← hcs]
    rw [hmore, trim_append hne (isTight_trim cs),
      trimStart_of_blank (List.forall_mem_append.2 ⟨hfront, hfront'⟩),
      trimEnd_of_blank (List.forall_mem_append.2 ⟨hback', hback⟩), List.nil_append,
      List.append_nil]

/-- Trimming takes nothing away from a tight text that occurs in another. -/
theorem infix_trim_iff {core cs : List Char} (hne : core ≠ []) (h : IsTight core) :
    core <:+: trim cs ↔ core <:+: cs := by
  constructor
  · obtain ⟨front, back, hcs, -⟩ := exists_eq_trim cs
    have hpart : trim cs <:+: cs := ⟨front, back, by rw [List.append_assoc, ← hcs]⟩
    exact fun hcore => hcore.trans hpart
  · rintro ⟨front, back, rfl⟩
    rw [List.append_assoc, trim_append hne h]
    exact ⟨trimStart front, trimEnd back, List.append_assoc _ _ _⟩

/-- Trimming takes nothing away from a tight text that another one starts with. -/
theorem prefix_trim {core cs : List Char} (hne : core ≠ []) (h : IsTight core)
    (hstart : core <+: cs) : core <+: trim cs := by
  obtain ⟨back, rfl⟩ := hstart
  have htrim := trim_append hne h [] back
  rw [List.nil_append] at htrim
  rw [htrim]
  exact List.prefix_append core (trimEnd back)

end VarsAdvisor.Text

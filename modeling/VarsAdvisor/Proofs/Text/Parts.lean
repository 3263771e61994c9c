import Mathlib.Data.List.Infix
import VarsAdvisor.Text.LineBreak
import VarsAdvisor.Text.Numeral
import VarsAdvisor.Text.Search

/-!
# Parts of texts

Cutting a text into lines or pieces and trimming it gives texts that stand in it as they are
(`pieces_splitLines`, `pieces_splitOn`, `cutAt_part`, `trim_part`). So a row of digits that is too
long to be read in a part is one in the whole text (`Overlong.mono`).
-/

namespace VarsAdvisor.Text

/-! ## Cutting and trimming -/

theorem dropTrailing_isPrefix (p : Char → Bool) (cs : List Char) : dropTrailing p cs <+: cs := by
  unfold dropTrailing
  rw [← List.reverse_suffix, List.reverse_reverse]
  exact List.dropWhile_suffix p

theorem trim_part (cs : List Char) : trim cs <:+: cs :=
  (dropTrailing_isPrefix isBlank _).isInfix.trans (List.dropWhile_suffix isBlank).isInfix

theorem occurs_iff {needle cs : List Char} : occurs needle cs = true ↔ needle <:+: cs := by
  induction cs with
  | nil => simp [occurs]
  | cons c r ih => rw [occurs, Bool.or_eq_true, ih, List.isPrefixOf_iff_prefix, List.infix_cons_iff]

theorem cutAt_part {sep cs before after : List Char} (h : cutAt sep cs = some (before, after)) :
    before <:+: cs := by
  suffices before <+: cs from this.isInfix
  induction cs generalizing before after with
  | nil =>
    rw [cutAt] at h
    split at h
    · cases h
      exact List.prefix_rfl
    · cases h
  | cons c r ih =>
    rw [cutAt] at h
    split at h
    · cases h
      exact List.nil_prefix
    · obtain ⟨⟨first, rest⟩, hr, hcons⟩ := Option.map_eq_some_iff.1 h
      cases hcons
      exact List.cons_prefix_cons.2 ⟨rfl, ih hr⟩

/-- The pieces stand in a text, the first one at its start. -/
structure Pieces (ls : List (List Char)) (cs : List Char) : Prop where
  head : ∀ l ∈ ls.head?, l <+: cs
  mem : ∀ l ∈ ls, l <:+: cs

namespace Pieces

variable {ls : List (List Char)} {cs : List Char}

theorem skip (h : Pieces ls cs) (front : List Char) : Pieces ([] :: ls) (front ++ cs) := by
  refine ⟨?_, ?_⟩
  · intro l hl
    cases hl
    exact List.nil_prefix
  · rw [List.forall_mem_cons]
    refine ⟨List.nil_infix, ?_⟩
    intro l hl
    exact (h.mem l hl).trans (List.suffix_append front cs).isInfix

theorem consToFirst (h : Pieces ls cs) (c : Char) : Pieces (consToFirst c ls) (c :: cs) := by
  cases ls with
  | nil =>
    have hc : [c] <+: c :: cs := List.cons_prefix_cons.2 ⟨rfl, List.nil_prefix⟩
    refine ⟨?_, ?_⟩
    · intro l hl
      cases hl
      exact hc
    · intro l hl
      rw [List.mem_singleton.1 hl]
      exact hc.isInfix
  | cons first rest =>
    have hfirst : c :: first <+: c :: cs := List.cons_prefix_cons.2 ⟨rfl, h.head first rfl⟩
    refine ⟨?_, ?_⟩
    · intro l hl
      cases hl
      exact hfirst
    · rw [Text.consToFirst, List.forall_mem_cons]
      refine ⟨hfirst.isInfix, ?_⟩
      intro l hl
      exact (h.mem l (List.mem_cons_of_mem _ hl)).trans (List.suffix_cons c cs).isInfix

end Pieces

theorem pieces_splitLines (cs : List Char) : Pieces (splitLines cs) cs := by
  fun_induction splitLines cs with
  | case1 => exact ⟨by simp, by simp⟩
  | case2 r ih => exact ih.skip ['\r', '\n']
  | case3 c r _ _ ih => exact ih.skip [c]
  | case4 c r _ _ ih => exact ih.consToFirst c

/-- A text without line breaks is one line. -/
theorem splitLines_of_no_break {cs : List Char} (hne : cs ≠ [])
    (h : ∀ c ∈ cs, isLineBreak c = false) : splitLines cs = [cs] := by
  fun_induction splitLines cs with
  | case1 => exact absurd rfl hne
  | case2 r ih => exact absurd (h '\r' List.mem_cons_self) (by decide)
  | case3 c r _ hbreak ih =>
    rw [h c List.mem_cons_self] at hbreak
    cases hbreak
  | case4 c r _ _ ih =>
    cases r with
    | nil => rfl
    | cons d r =>
      rw [ih (List.cons_ne_nil d r) fun c hc => h c (List.mem_cons_of_mem _ hc)]
      rfl

theorem pieces_splitOn (sep : Char) (cs : List Char) : Pieces (splitOn sep cs) cs := by
  induction cs with
  | nil =>
    refine ⟨?_, ?_⟩
    · intro l hl
      cases hl
      exact List.prefix_rfl
    · intro l hl
      cases List.mem_singleton.1 hl
      exact List.infix_rfl
  | cons c r ih =>
    rw [splitOn]
    split
    · exact ih.skip [c]
    · have hcons := ih.consToFirst c
      unfold Text.consToFirst at hcons
      exact hcons

/-! ## Rows of digits -/

/-- A text is refused because of a row of digits in it that is too long to be read. -/
def Overlong (cs : List Char) (e : NumeralError) : Prop :=
  ∃ ds, ds <:+: cs ∧ (∀ d ∈ ds, isDigit d = true) ∧ maxNumeralDigits < ds.length ∧
    e = .tooLong ds.length

theorem Overlong.mono {cs cs' : List Char} {e : NumeralError} (h : Overlong cs e)
    (hpart : cs <:+: cs') : Overlong cs' e := by
  obtain ⟨ds, hds, hrest⟩ := h
  exact ⟨ds, hds.trans hpart, hrest⟩

theorem overlong_of_parseDigits {ds : List Char} {e : NumeralError}
    (hds : ∀ d ∈ ds, isDigit d = true) (h : parseDigits ds = .error e) : Overlong ds e := by
  unfold parseDigits at h
  split at h
  · next hlong =>
    cases h
    exact ⟨ds, List.infix_rfl, hds, hlong, rfl⟩
  · cases h

/-! ## Numerals in ASCII digits -/

theorem digitValue?_of_ascii {c : Char} (h : isAsciiDigit c = true) :
    digitValue? c = some (c.toNat - 48) := by
  simp only [isAsciiDigit, Bool.and_eq_true, decide_eq_true_eq] at h
  unfold digitValue?
  rw [if_pos (by omega), if_pos (by simp; omega)]

theorem isDigit_of_ascii {c : Char} (h : isAsciiDigit c = true) : isDigit c = true := by
  unfold isDigit
  rw [digitValue?_of_ascii h]
  rfl

theorem isBlank_of_ascii {c : Char} (h : isAsciiDigit c = true) : isBlank c = false := by
  simp only [isAsciiDigit, Bool.and_eq_true, decide_eq_true_eq] at h
  simp [isBlank]
  omega

theorem digitsValue_of_ascii {cs : List Char} (h : ∀ c ∈ cs, isAsciiDigit c = true) (acc : Nat) :
    digitsValue acc (cs.map fun c => (digitValue? c).getD 0) = Nat.ofDigitChars 10 cs acc := by
  induction cs generalizing acc with
  | nil => exact Nat.ofDigitChars_nil.symm
  | cons c r ih =>
    rw [List.forall_mem_cons] at h
    rw [Nat.ofDigitChars_cons, Nat.mul_comm, ← ih h.2, List.map_cons, digitValue?_of_ascii h.1]
    rfl

theorem spanDigits_of_ascii {cs : List Char} (h : ∀ c ∈ cs, isAsciiDigit c = true) :
    spanDigits cs = (cs.map fun c => c.toNat - 48, []) := by
  induction cs with
  | nil => rfl
  | cons c r ih =>
    rw [List.forall_mem_cons] at h
    have hc : c ≠ '_' := by
      rintro rfl
      exact absurd h.1 (by decide)
    rw [spanDigits.eq_3 _ _ (by grind), digitValue?_of_ascii h.1, ih h.2]
    rfl

theorem trimPadding_of_ascii {cs : List Char} (h : ∀ c ∈ cs, isAsciiDigit c = true) :
    trimPadding cs = cs := by
  have hpadding : ∀ c ∈ cs, isPadding c = false := by
    intro c hc
    unfold isPadding
    rw [isBlank_of_ascii (h c hc), Bool.false_and]
  have hkeep : ∀ ds : List Char, (∀ d ∈ ds, isPadding d = false) → ds.dropWhile isPadding = ds := by
    intro ds hds
    cases ds with
    | nil => rfl
    | cons d r => exact List.dropWhile_cons_of_neg (by simp [hds d List.mem_cons_self])
  unfold trimPadding dropTrailing
  rw [hkeep cs hpadding, hkeep cs.reverse (by simpa using hpadding), List.reverse_reverse]

/-- One or more ASCII digits are a numeral, unless they are too many. -/
theorem parseInt_of_ascii {cs : List Char} (hne : cs ≠ []) (h : ∀ c ∈ cs, isAsciiDigit c = true) :
    parseInt (String.ofList cs) =
      if maxNumeralDigits < cs.length then .error (.tooLong cs.length)
      else .ok (digitsValue 0 (cs.map fun c => c.toNat - 48) : Nat) := by
  have hsign : splitSign cs = (false, cs) := by
    unfold splitSign
    split
    · simp [isAsciiDigit] at h
    · simp [isAsciiDigit] at h
    · rfl
  have hlead : leadingDigits cs = (cs.map fun c => c.toNat - 48, []) := by
    unfold leadingDigits
    rw [if_neg, spanDigits_of_ascii h]
    intro hhead
    have hmem := h _ (List.mem_of_head? hhead)
    simp [isAsciiDigit] at hmem
  unfold parseInt
  rw [String.toList_ofList, trimPadding_of_ascii h, hsign]
  simp [hlead, hne]

theorem overlong_of_parseInt {cs : List Char} {e : NumeralError} (hne : cs ≠ [])
    (hcs : ∀ c ∈ cs, isAsciiDigit c = true) (h : parseInt (String.ofList cs) = .error e) :
    Overlong cs e := by
  rw [parseInt_of_ascii hne hcs] at h
  split at h
  · next hlong =>
    cases h
    exact ⟨cs, List.infix_rfl, fun c hc => isDigit_of_ascii (hcs c hc), hlong, rfl⟩
  · cases h

end VarsAdvisor.Text

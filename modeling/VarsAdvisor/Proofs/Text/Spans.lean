import Mathlib.Data.List.TakeWhile
import VarsAdvisor.Proofs.Text.Parts
import VarsAdvisor.Text.Blank
import VarsAdvisor.Text.Word

/-!
# Runs of characters

A scan for characters of one kind takes a run of them and stops where another character, or none,
follows (`span_append`), and every text is such a run and what follows it (`exists_span`). Gaps,
numbers and the words of rules are runs that are not empty (`IsRun`). Decimals, numbers in at most
4300 ASCII digits, are read as what they write (`IsDecimal.parseDigits_eq`).
-/

namespace VarsAdvisor.Text

variable {p : Char → Bool} {run rest cs : List Char} {c : Char}

/-! ## Scans -/

theorem span_append (hrun : ∀ c ∈ run, p c = true) (hrest : ∀ c ∈ rest.head?, p c = false) :
    (run ++ rest).takeWhile p = run ∧ (run ++ rest).dropWhile p = rest := by
  rw [List.takeWhile_append_of_pos hrun, List.dropWhile_append_of_pos hrun]
  cases rest with
  | nil => simp
  | cons c r => simp [hrest c rfl]

theorem exists_span (p : Char → Bool) (cs : List Char) :
    ∃ run rest, cs = run ++ rest ∧ (∀ c ∈ run, p c = true) ∧ ∀ c ∈ rest.head?, p c = false := by
  refine ⟨cs.takeWhile p, cs.dropWhile p, List.takeWhile_append_dropWhile.symm,
    fun c hc => List.mem_takeWhile_imp hc, ?_⟩
  intro c hc
  have hnot := List.head?_dropWhile_not p cs
  rwa [Option.mem_def.1 hc] at hnot

/-- One or more characters of one kind. -/
structure IsRun (p : Char → Bool) (cs : List Char) : Prop where
  ne_nil : cs ≠ []
  chars : ∀ c ∈ cs, p c = true

instance (p : Char → Bool) (cs : List Char) : Decidable (IsRun p cs) :=
  decidable_of_iff (cs ≠ [] ∧ cs.all p = true)
    ⟨fun h => ⟨h.1, List.all_eq_true.1 h.2⟩, fun h => ⟨h.ne_nil, List.all_eq_true.2 h.chars⟩⟩

theorem IsRun.exists_cons (h : IsRun p cs) :
    ∃ c r, cs = c :: r ∧ p c = true ∧ ∀ d ∈ r, p d = true := by
  obtain ⟨c, r, rfl⟩ := List.exists_cons_of_ne_nil h.ne_nil
  exact ⟨c, r, rfl, List.forall_mem_cons.1 h.chars⟩

theorem IsRun.not_mem (h : IsRun p cs) (hc : p c = false) : c ∉ cs := by
  intro hmem
  rw [h.chars c hmem] at hc
  cases hc

/-- One or more blanks. -/
abbrev IsGap : List Char → Prop :=
  IsRun isBlank

/-- One or more decimal digits, of any script. -/
abbrev IsNumber : List Char → Prop :=
  IsRun isDigit

/-- One or more word characters and hyphens. -/
abbrev IsRuleWord : List Char → Prop :=
  IsRun isRuleChar

/-! ## Numbers -/

theorem colon_not_mem (h : IsNumber cs) : ':' ∉ cs :=
  h.not_mem (by decide)

theorem isDigit_of_blank (h : isBlank c = true) : isDigit c = false := by
  have hcode : c.toNat ∈ [9, 10, 11, 12, 13, 28, 29, 30, 31, 32, 0x85, 0xA0, 0x1680, 0x2000,
      0x2001, 0x2002, 0x2003, 0x2004, 0x2005, 0x2006, 0x2007, 0x2008, 0x2009, 0x200A, 0x2028,
      0x2029, 0x202F, 0x205F, 0x3000] := by
    simp only [isBlank, Bool.or_eq_true, Bool.and_eq_true, decide_eq_true_eq, beq_iff_eq] at h
    simp only [List.mem_cons, List.not_mem_nil]
    omega
  unfold isDigit digitValue?
  generalize c.toNat = n at hcode ⊢
  revert n
  rw [List.forall_mem_iff_forall_getElem]
  decide

/-- One to 4300 ASCII digits. -/
structure IsDecimal (cs : List Char) : Prop where
  ne_nil : cs ≠ []
  ascii : ∀ c ∈ cs, isAsciiDigit c = true
  short : cs.length ≤ 4300

instance (cs : List Char) : Decidable (IsDecimal cs) :=
  decidable_of_iff (cs ≠ [] ∧ cs.all isAsciiDigit = true ∧ cs.length ≤ 4300)
    ⟨fun h => ⟨h.1, List.all_eq_true.1 h.2.1, h.2.2⟩,
      fun h => ⟨h.ne_nil, List.all_eq_true.2 h.ascii, h.short⟩⟩

theorem IsDecimal.isNumber (h : IsDecimal cs) : IsNumber cs :=
  ⟨h.ne_nil, fun c hc => isDigit_of_ascii (h.ascii c hc)⟩

theorem IsDecimal.parseDigits_eq (h : IsDecimal cs) :
    parseDigits cs = .ok (Nat.ofDigitChars 10 cs 0) := by
  have hshort : ¬ maxNumeralDigits < cs.length := Nat.not_lt.2 h.short
  unfold parseDigits
  rw [if_neg hshort, digitsValue_of_ascii h.ascii]

end VarsAdvisor.Text

import VarsAdvisor.Json.Decode
import VarsAdvisor.Json.Encode
import VarsAdvisor.Proofs.Text.Parts
import VarsAdvisor.Proofs.Text.WideText

/-!
# Writing and reading whole JSON numbers

A whole number that was written is read again if it has no more digits than a numeral may have and
no number goes on with what follows it (`readScalar_encodeInt`).
-/

namespace VarsAdvisor.Json

open VarsAdvisor.Text VarsAdvisor.Decimal

/-! ## Decimal digits -/

theorem isAsciiDigit_of_mem_toDigits {n : Nat} {c : Char} (h : c ∈ Nat.toDigits 10 n) :
    isAsciiDigit c = true := by
  have hdigit := Nat.isDigit_of_mem_toDigits (by decide) (by decide) h
  simp only [Char.isDigit, Bool.and_eq_true, decide_eq_true_eq, ge_iff_le,
    UInt32.le_iff_toNat_le] at hdigit
  simp only [isAsciiDigit, Bool.and_eq_true, decide_eq_true_eq]
  exact hdigit

theorem parseDigits_toDigits {n : Nat} (h : (Nat.toDigits 10 n).length ≤ maxNumeralDigits) :
    parseDigits (Nat.toDigits 10 n) = .ok n := by
  unfold parseDigits
  rw [if_neg (Nat.not_lt.2 h), digitsValue_of_ascii fun c => isAsciiDigit_of_mem_toDigits,
    Nat.ofDigitChars_ten_toDigits]

theorem head?_toDigits_ne_zero {n : Nat} (h : n ≠ 0) : (Nat.toDigits 10 n).head? ≠ some '0' := by
  induction n using Nat.strongRecOn with
  | ind n ih =>
    by_cases hn : n < 10
    · rw [Nat.toDigits_of_lt_base hn]
      simpa using h
    · rw [Nat.toDigits_of_base_le (by decide) (Nat.not_lt.1 hn),
        List.head?_append_of_ne_nil _ Nat.toDigits_ne_nil]
      exact ih (n / 10) (by omega) (by omega)

theorem toDigits_start (n : Nat) :
    ∃ c r, Nat.toDigits 10 n = c :: r ∧ isAsciiDigit c = true := by
  obtain ⟨c, r, hcons⟩ := List.exists_cons_of_ne_nil (@Nat.toDigits_ne_nil n 10)
  exact ⟨c, r, hcons, isAsciiDigit_of_mem_toDigits
    (hcons ▸ List.mem_cons_self : c ∈ Nat.toDigits 10 n)⟩

theorem encodeInt_start (n : Int) :
    ∃ c r, encodeInt n = c :: r ∧ (c = '-' ∨ isAsciiDigit c = true) := by
  unfold encodeInt
  split
  · exact ⟨'-', _, rfl, .inl rfl⟩
  · obtain ⟨c, r, hcons, hc⟩ := toDigits_start n.natAbs
    exact ⟨c, r, hcons, .inr hc⟩

/-! ## Numbers -/

/-- No number goes on with the text. -/
def Stops (rest : List Char) : Prop :=
  ∀ c ∈ rest.head?, isAsciiDigit c = false ∧ c ≠ '.' ∧ c ≠ 'e' ∧ c ≠ 'E'

theorem stops_nil : Stops [] :=
  fun _ h => nomatch h

variable {rest : List Char}

theorem spanWhole_toDigits (h : Stops rest) (n : Nat) :
    spanWhole (Nat.toDigits 10 n ++ rest) = (Nat.toDigits 10 n, rest) := by
  have hrest : rest.takeWhile isAsciiDigit = [] ∧ rest.dropWhile isAsciiDigit = rest := by
    cases rest with
    | nil => exact ⟨rfl, rfl⟩
    | cons c r =>
      have hc := (h c rfl).1
      exact ⟨List.takeWhile_cons_of_neg (by simp [hc]), List.dropWhile_cons_of_neg (by simp [hc])⟩
  by_cases hn : n = 0
  · rw [hn, Nat.toDigits_zero]
    rfl
  · unfold spanWhole
    split
    · next r heq =>
      have hhead : (Nat.toDigits 10 n ++ rest).head? = (Nat.toDigits 10 n).head? :=
        List.head?_append_of_ne_nil _ Nat.toDigits_ne_nil
      rw [heq] at hhead
      exact absurd hhead.symm (head?_toDigits_ne_zero hn)
    · rw [List.takeWhile_append_of_pos fun c => isAsciiDigit_of_mem_toDigits,
        List.dropWhile_append_of_pos fun c => isAsciiDigit_of_mem_toDigits, hrest.1, hrest.2,
        List.append_nil]

theorem spanFraction_of_stops (h : Stops rest) : spanFraction rest = ([], rest) := by
  unfold spanFraction
  split
  · exact absurd rfl (h '.' rfl).2.1
  · rfl

theorem spanExponent_of_stops (h : Stops rest) : spanExponent rest = (0, rest) := by
  cases rest with
  | nil => rfl
  | cons c r =>
    have hc := h c rfl
    rw [spanExponent, if_neg (not_or.2 ⟨hc.2.2.1, hc.2.2.2⟩)]

theorem readMagnitude_toDigits {n : Nat} (hn : (Nat.toDigits 10 n).length ≤ maxNumeralDigits)
    (h : Stops rest) (left : Nat) (negative : Bool) :
    readMagnitude left negative (Nat.toDigits 10 n ++ rest) =
      .ok (.int (if negative then -(Int.ofNat n) else Int.ofNat n), rest) := by
  unfold readMagnitude
  rw [spanWhole_toDigits h]
  simp only [List.isEmpty_iff, Nat.toDigits_ne_nil, if_false, spanFraction_of_stops h,
    spanExponent_of_stops h, if_true, parseDigits_toDigits hn]

theorem readPlain_of_digit {c : Char} (h : isAsciiDigit c = true) (left : Nat) (r : List Char) :
    readPlain left (c :: r) = readMagnitude left false (c :: r) := by
  unfold readPlain
  split <;> first | rfl | simp_all [isAsciiDigit]

theorem readPlain_of_negative {c : Char} (h : isAsciiDigit c = true) (left : Nat)
    (r : List Char) : readPlain left ('-' :: c :: r) = readMagnitude left true (c :: r) := by
  unfold readPlain
  split <;> simp_all [isAsciiDigit]

theorem readPlain_encodeInt {n : Int}
    (hn : (Nat.toDigits 10 n.natAbs).length ≤ maxNumeralDigits) (h : Stops rest) (left : Nat) :
    readPlain left (encodeInt n ++ rest) = .ok (.int n, rest) := by
  obtain ⟨c, r, hcons, hc⟩ := toDigits_start n.natAbs
  have hread := readMagnitude_toDigits hn h
  unfold encodeInt
  split
  · next hneg =>
    rw [hcons] at hread ⊢
    rw [List.singleton_append, List.cons_append, List.cons_append, readPlain_of_negative hc,
      ← List.cons_append, hread, if_pos rfl, Int.ofNat_eq_natCast,
      Int.ofNat_natAbs_of_nonpos (Int.le_of_lt hneg), Int.neg_neg]
  · next hpos =>
    rw [hcons] at hread ⊢
    rw [List.nil_append, List.cons_append, readPlain_of_digit hc, ← List.cons_append, hread,
      if_neg Bool.false_ne_true, Int.ofNat_eq_natCast, Int.natAbs_of_nonneg (Int.not_lt.1 hpos)]

theorem spanChars_pointsOf (cs : List Char) : spanChars (pointsOf cs) = (cs, []) := by
  induction cs with
  | nil => rfl
  | cons c r ih => rw [pointsOf_cons, spanChars, ih]

/-- Among characters a surrogate makes no difference to what is read. -/
theorem readScalar_pointsOf (cs : List Char) :
    readScalar (pointsOf cs) =
      (readPlain cs.length cs).map fun (v, rest) => (v, pointsOf rest) := by
  unfold readScalar
  rw [spanChars_pointsOf, length_pointsOf]
  simp only [List.append_nil]

theorem readScalar_encodeInt {n : Int}
    (hn : (Nat.toDigits 10 n.natAbs).length ≤ maxNumeralDigits) (h : Stops rest) :
    readScalar (pointsOf (encodeInt n ++ rest)) = .ok (.int n, pointsOf rest) := by
  rw [readScalar_pointsOf, readPlain_encodeInt hn h]
  rfl

end VarsAdvisor.Json

import Mathlib.Tactic.SplitIfs
import VarsAdvisor.Json.Decode
import VarsAdvisor.Json.Encode
import VarsAdvisor.Proofs.Text.WideText

/-!
# Writing and reading JSON strings

A character is written in one of four ways (`Written`), and whichever it is, it is read again in one
step if something follows (`Written.read`). So a string is read up to the mark that ends it
(`readString_flatMap`), and without this mark it is refused (`readStringBody_unclosed`).
-/

namespace VarsAdvisor.Json

open VarsAdvisor.Text

/-! ## Units -/

theorem hexValue?_hexDigit : ∀ n < 16, hexValue? (hexDigit n) = some n := by
  decide

theorem hexDigits_four (n : Nat) : hexDigits 4 n =
    [hexDigit (n / 16 / 16 / 16 % 16), hexDigit (n / 16 / 16 % 16), hexDigit (n / 16 % 16),
      hexDigit (n % 16)] := rfl

/-- The digits of a unit are read as this unit, if something follows them. -/
theorem readUnit?_hexDigits {n : Nat} (h : n < 0x10000) (c : Char) (r : List Char) :
    readUnit? (pointsOf (hexDigits 4 n ++ c :: r)) = some (n, pointsOf (c :: r)) := by
  have hvalue : ∀ m, hexValue? (hexDigit (m % 16)) = some (m % 16) := fun m =>
    hexValue?_hexDigit _ (Nat.mod_lt m (by decide))
  have hsum : ((n / 16 / 16 / 16 % 16 * 16 + n / 16 / 16 % 16) * 16 + n / 16 % 16) * 16 + n % 16 =
      n := by
    omega
  rw [hexDigits_four]
  simp only [List.cons_append, List.nil_append, pointsOf_cons, readUnit?, hvalue]
  exact congrArg (fun m => some (m, pointsOf (c :: r))) hsum

theorem toNat_valid (c : Char) : c.toNat < 0xD800 ∨ 0xDFFF < c.toNat ∧ c.toNat < 0x110000 :=
  c.valid

/-- The number of a character is that of no surrogate. -/
theorem ofNat_toNat (c : Char) : CodePoint.ofNat c.toNat = .char c := by
  have hvalid := toNat_valid c
  have hother : ¬ (0xD800 ≤ c.toNat ∧ c.toNat < 0xE000) := by omega
  rw [CodePoint.ofNat, if_neg hother]
  exact congrArg CodePoint.char (Char.ofNat_toNat c)

theorem readUnitEscape_of_low {c : Char} (h : c.toNat < 0x10000) (d : Char) (r : List Char) :
    readUnitEscape (pointsOf (hexDigits 4 c.toNat ++ d :: r)) =
      .ok (.char c, pointsOf (d :: r)) := by
  have hhigh : isHighUnit c.toNat = false := by
    have := toNat_valid c
    simp [isHighUnit]
    omega
  unfold readUnitEscape
  rw [readUnit?_hexDigits h]
  split
  · next hnone => cases hnone
  · next hsome =>
    obtain ⟨hunit, hrest⟩ := Prod.mk.inj (Option.some.inj hsome)
    rw [← hunit, hhigh, ofNat_toNat, hrest]
    rfl
  · next hsome =>
    cases hsome
    rw [ofNat_toNat]

/-- What is done with a unit that an escape of another unit follows. -/
theorem readUnitEscape_of_escape {cs r : List CodePoint} {unit : Nat}
    (h : readUnit? cs = some (unit, .char '\\' :: .char 'u' :: r)) : readUnitEscape cs =
      if isHighUnit unit && decide (5 ≤ r.length) then
        match readUnit? r with
        | none => .error (.fault .badUnitEscape (r.length + 1))
        | some (second, rest) =>
          if isLowUnit second then .ok (.char (pairChar unit second), rest)
          else .ok (.ofNat unit, .char '\\' :: .char 'u' :: r)
      else .ok (.ofNat unit, .char '\\' :: .char 'u' :: r) := by
  unfold readUnitEscape
  rw [h]
  rfl

theorem isHighUnit_of_pair (c : Char) :
    isHighUnit (0xD800 + (c.toNat - 0x10000) / 0x400) = true := by
  have := toNat_valid c
  simp [isHighUnit]
  omega

theorem isLowUnit_of_pair (n : Nat) : isLowUnit (0xDC00 + n % 0x400) = true := by
  simp [isLowUnit]
  omega

theorem pairChar_of_pair {c : Char} (h : 0x10000 ≤ c.toNat) :
    pairChar (0xD800 + (c.toNat - 0x10000) / 0x400) (0xDC00 + (c.toNat - 0x10000) % 0x400) =
      c := by
  have hsum : 0x10000 + (0xD800 + (c.toNat - 0x10000) / 0x400 - 0xD800) * 0x400 +
      (0xDC00 + (c.toNat - 0x10000) % 0x400 - 0xDC00) = c.toNat := by
    omega
  rw [pairChar, hsum]
  exact Char.ofNat_toNat c

theorem readUnitEscape_of_pair {c : Char} (h : 0x10000 ≤ c.toNat) (d : Char) (r : List Char) :
    readUnitEscape (pointsOf (hexDigits 4 (0xD800 + (c.toNat - 0x10000) / 0x400) ++
      (encodeUnit (0xDC00 + (c.toNat - 0x10000) % 0x400) ++ d :: r))) =
        .ok (.char c, pointsOf (d :: r)) := by
  have hvalid := toNat_valid c
  obtain ⟨low, hlow⟩ : ∃ low, low =
      pointsOf (hexDigits 4 (0xDC00 + (c.toNat - 0x10000) % 0x400) ++ d :: r) := ⟨_, rfl⟩
  have hfirst : readUnit? (pointsOf (hexDigits 4 (0xD800 + (c.toNat - 0x10000) / 0x400) ++
      (encodeUnit (0xDC00 + (c.toNat - 0x10000) % 0x400) ++ d :: r))) =
        some (0xD800 + (c.toNat - 0x10000) / 0x400, .char '\\' :: .char 'u' :: low) := by
    rw [hlow]
    exact readUnit?_hexDigits (by omega) _ _
  have hsecond : readUnit? low =
      some (0xDC00 + (c.toNat - 0x10000) % 0x400, pointsOf (d :: r)) := by
    rw [hlow]
    exact readUnit?_hexDigits (by omega) _ _
  have hlength : 5 ≤ low.length := by
    rw [hlow, hexDigits_four]
    simp
  rw [readUnitEscape_of_escape hfirst, isHighUnit_of_pair, decide_eq_true hlength, hsecond,
    Bool.and_true, if_pos rfl]
  exact (if_pos (isLowUnit_of_pair _)).trans
    (congrArg (fun e => Except.ok (CodePoint.char e, pointsOf (d :: r))) (pairChar_of_pair h))

/-! ## Characters -/

/-- How a character is written: by a letter of its own, as it is, or by one unit or two. -/
inductive Written (c : Char) : List Char → Prop where
  | escape {letter : Char} (stands : simpleEscape? letter = some c) : Written c ['\\', letter]
  | plain (notQuote : c ≠ '"') (notBackslash : c ≠ '\\') (ascii : 32 ≤ c.toNat ∧ c.toNat < 127) :
    Written c [c]
  | unit (low : c.toNat < 0x10000) : Written c (encodeUnit c.toNat)
  | pair (high : 0x10000 ≤ c.toNat) :
    Written c (encodeUnit (0xD800 + (c.toNat - 0x10000) / 0x400) ++
      encodeUnit (0xDC00 + (c.toNat - 0x10000) % 0x400))

theorem written_encodeChar (c : Char) : Written c (encodeChar c) := by
  unfold encodeChar
  split_ifs with hquote hbackslash hfeed hreturn htab hback hform hplain hlow
  · exact .escape (congrArg some hquote.symm)
  · exact .escape (congrArg some hbackslash.symm)
  · exact .escape (congrArg some hfeed.symm)
  · exact .escape (congrArg some hreturn.symm)
  · exact .escape (congrArg some htab.symm)
  · exact .escape (congrArg some (Char.toNat_inj.1 hback).symm)
  · exact .escape (congrArg some (Char.toNat_inj.1 hform).symm)
  · exact .plain hquote hbackslash hplain
  · exact .unit hlow
  · exact .pair (Nat.not_lt.1 hlow)

theorem encodeUnit_ne_nil (n : Nat) : encodeUnit n ≠ [] :=
  List.cons_ne_nil _ _

theorem Written.ne_nil {c : Char} {cs : List Char} (h : Written c cs) : cs ≠ [] := by
  cases h with
  | escape => exact List.cons_ne_nil _ _
  | plain => exact List.cons_ne_nil _ _
  | unit => exact encodeUnit_ne_nil _
  | pair => exact List.append_ne_nil_of_left_ne_nil (encodeUnit_ne_nil _) _

theorem encodeChar_ne_nil (c : Char) : encodeChar c ≠ [] :=
  (written_encodeChar c).ne_nil

/-- The characters that escapes are made of. -/
def escapeLetters : List Char :=
  "\\\"/nrtbfu0123456789acde".toList

theorem letter_mem {letter c : Char} (h : simpleEscape? letter = some c) :
    letter ∈ escapeLetters := by
  unfold simpleEscape? at h
  split at h
  case h_9 => cases h
  all_goals decide

theorem hexDigit_mem : ∀ n < 16, hexDigit n ∈ escapeLetters := by
  decide

theorem mem_encodeUnit {n : Nat} {d : Char} (h : d ∈ encodeUnit n) : d ∈ escapeLetters := by
  have hdigit : ∀ m, hexDigit (m % 16) ∈ escapeLetters := fun m =>
    hexDigit_mem _ (Nat.mod_lt m (by decide))
  unfold encodeUnit at h
  rw [hexDigits_four] at h
  simp only [List.mem_cons, List.not_mem_nil, or_false] at h
  rcases h with rfl | rfl | rfl | rfl | rfl | rfl
  · decide
  · decide
  all_goals exact hdigit _

/-- What is written for a character is part of an escape, or the character itself. -/
theorem Written.mem {c d : Char} {cs : List Char} (h : Written c cs) (hd : d ∈ cs) :
    d ∈ escapeLetters ∨ d = c ∧ 32 ≤ c.toNat ∧ c.toNat < 127 := by
  cases h with
  | escape stands =>
    refine .inl ?_
    rcases List.mem_cons.1 hd with rfl | hd
    · decide
    · rw [List.mem_singleton.1 hd]
      exact letter_mem stands
  | plain _ _ ascii => exact .inr ⟨List.mem_singleton.1 hd, ascii⟩
  | unit => exact .inl (mem_encodeUnit hd)
  | pair => exact .inl ((List.mem_append.1 hd).elim mem_encodeUnit mem_encodeUnit)

theorem mem_encodeChar {c d : Char} (h : d ∈ encodeChar c) :
    d ∈ escapeLetters ∨ d = c ∧ 32 ≤ c.toNat ∧ c.toNat < 127 :=
  (written_encodeChar c).mem h

section Reading

variable (start fuel : Nat) (acc : List CodePoint)

theorem readStringBody_escape {letter c : Char} (h : simpleEscape? letter = some c)
    (r : List Char) :
    readStringBody start (fuel + 1) acc (pointsOf ('\\' :: letter :: r)) =
      readStringBody start fuel (.char c :: acc) (pointsOf r) := by
  have hunit : letter ≠ 'u' := by
    rintro rfl
    cases h
  rw [pointsOf_cons, pointsOf_cons, readStringBody, CodePoint.char?, Option.bind_some, h]
  exact fun hpoint => hunit (CodePoint.char.inj hpoint)

theorem readStringBody_unit (n : Nat) {c d : Char} {r rest : List Char}
    (h : readUnitEscape (pointsOf (hexDigits 4 n ++ rest)) = .ok (.char c, pointsOf (d :: r))) :
    readStringBody start (fuel + 1) acc (pointsOf (encodeUnit n ++ rest)) =
      readStringBody start fuel (.char c :: acc) (pointsOf (d :: r)) := by
  unfold encodeUnit
  rw [List.cons_append, List.cons_append, pointsOf_cons, pointsOf_cons, readStringBody, h]
  rfl

theorem readStringBody_plain {c : Char} (hquote : c ≠ '"') (hbackslash : c ≠ '\\')
    (h : 32 ≤ c.toNat) (r : List Char) :
    readStringBody start (fuel + 1) acc (pointsOf (c :: r)) =
      readStringBody start fuel (.char c :: acc) (pointsOf r) := by
  rw [pointsOf_cons, readStringBody, if_neg (Nat.not_lt.2 h)]
  · exact hquote
  · exact fun _ hc => hbackslash hc
  · exact fun _ _ hc => hbackslash hc
  · exact fun _ _ _ hc => hbackslash hc

/-- A character that was written is read in one step, whatever its escape is. -/
theorem Written.read {c : Char} {cs : List Char} (h : Written c cs) (d : Char) (r : List Char) :
    readStringBody start (fuel + 1) acc (pointsOf (cs ++ d :: r)) =
      readStringBody start fuel (.char c :: acc) (pointsOf (d :: r)) := by
  cases h with
  | escape stands => exact readStringBody_escape start fuel acc stands (d :: r)
  | plain notQuote notBackslash ascii =>
    exact readStringBody_plain start fuel acc notQuote notBackslash ascii.1 (d :: r)
  | unit low => exact readStringBody_unit start fuel acc _ (readUnitEscape_of_low low d r)
  | pair high =>
    rw [List.append_assoc]
    exact readStringBody_unit start fuel acc _ (readUnitEscape_of_pair high d r)

end Reading

/-! ## Strings -/

theorem encodeString_ofString (s : String) :
    encodeString s = '"' :: (s.toList.flatMap encodeChar ++ ['"']) := by
  have hpoints : (pointsOf s.toList).flatMap encodePoint = s.toList.flatMap encodeChar := by
    simp [pointsOf, List.flatMap_map, encodePoint]
  unfold encodeString
  rw [WideText.points_ofString, hpoints]
  rfl

theorem encodeString_append (s : String) (rest : List Char) :
    encodeString s ++ rest = '"' :: (s.toList.flatMap encodeChar ++ '"' :: rest) := by
  rw [encodeString_ofString]
  simp

theorem length_le_flatMap_encodeChar (cs : List Char) :
    cs.length ≤ (cs.flatMap encodeChar).length := by
  induction cs with
  | nil => exact Nat.le_refl 0
  | cons c r ih =>
    have hpos := List.length_pos_iff.2 (encodeChar_ne_nil c)
    rw [List.length_cons, List.flatMap_cons, List.length_append]
    omega

/-- The characters of a string are read up to the mark that ends it. -/
theorem readStringBody_flatMap (start : Nat) {fuel : Nat} {cs : List Char} (h : cs.length < fuel)
    (acc : List CodePoint) (rest : List Char) :
    readStringBody start fuel acc (pointsOf (cs.flatMap encodeChar ++ '"' :: rest)) =
      .ok (acc.reverse ++ pointsOf cs, pointsOf rest) := by
  induction cs generalizing fuel acc with
  | nil =>
    cases fuel with
    | zero => exact absurd h (Nat.not_lt_zero _)
    | succ fuel =>
      rw [pointsOf_nil, List.append_nil]
      rfl
  | cons c r ih =>
    cases fuel with
    | zero => exact absurd h (Nat.not_lt_zero _)
    | succ fuel =>
      have hstep : ∃ d more, r.flatMap encodeChar ++ '"' :: rest = d :: more :=
        List.exists_cons_of_ne_nil (by simp)
      obtain ⟨d, more, htail⟩ := hstep
      rw [List.flatMap_cons, List.append_assoc, htail, (written_encodeChar c).read, ← htail,
        ih (Nat.lt_of_succ_lt_succ h), List.reverse_cons, List.append_assoc,
        List.singleton_append, pointsOf_cons]

theorem readString_flatMap (s : String) (rest : List Char) :
    readString (pointsOf (s.toList.flatMap encodeChar ++ '"' :: rest)) =
      .ok (s, pointsOf rest) := by
  have hfuel : s.toList.length <
      (pointsOf (s.toList.flatMap encodeChar ++ '"' :: rest)).length + 1 := by
    have := length_le_flatMap_encodeChar s.toList
    rw [length_pointsOf, List.length_append]
    omega
  unfold readString
  rw [readStringBody_flatMap _ hfuel]
  rfl

/-! ## Strings without an end -/

theorem readStringBody_nil (start fuel : Nat) (acc : List CodePoint) :
    readStringBody start fuel acc [] = .error (.fault .unterminatedString start) := by
  cases fuel <;> rfl

/-- An escape of a unit at the end of a text is refused: no mark follows it. -/
theorem readUnitEscape_hexDigits (n : Nat) :
    readUnitEscape (pointsOf (hexDigits 4 n)) = .error (.fault .badUnitEscape 5) := by
  rw [hexDigits_four]
  rfl

theorem readStringBody_encodeUnit (start fuel : Nat) (acc : List CodePoint) (n : Nat) :
    ∃ e, readStringBody start fuel acc (pointsOf (encodeUnit n)) = .error e := by
  cases fuel with
  | zero => exact ⟨_, rfl⟩
  | succ fuel =>
    unfold encodeUnit
    rw [pointsOf_cons, pointsOf_cons, readStringBody, readUnitEscape_hexDigits]
    exact ⟨_, rfl⟩

/-- The first escape of a pair whose second one nothing follows stands for itself. -/
theorem readUnitEscape_of_short_pair {high low : Nat} (h : high < 0x10000) :
    readUnitEscape (pointsOf (hexDigits 4 high ++ encodeUnit low)) =
      .ok (.ofNat high, pointsOf (encodeUnit low)) := by
  have hunit : readUnit? (pointsOf (hexDigits 4 high ++ encodeUnit low)) =
      some (high, .char '\\' :: .char 'u' :: pointsOf (hexDigits 4 low)) :=
    readUnit?_hexDigits h _ _
  have hlength : ¬ 5 ≤ (pointsOf (hexDigits 4 low)).length := by
    rw [hexDigits_four]
    simp
  rw [readUnitEscape_of_escape hunit, decide_eq_false hlength, Bool.and_false]
  rfl

/-- After a character that was written last, the mark that ends the string is missing. -/
theorem Written.read_last {c : Char} {cs : List Char} (h : Written c cs) (start fuel : Nat)
    (acc : List CodePoint) : ∃ e, readStringBody start fuel acc (pointsOf cs) = .error e := by
  cases fuel with
  | zero => exact ⟨_, rfl⟩
  | succ fuel =>
    cases h with
    | escape stands =>
      rw [readStringBody_escape start fuel acc stands]
      exact ⟨_, readStringBody_nil start fuel _⟩
    | plain notQuote notBackslash ascii =>
      rw [readStringBody_plain start fuel acc notQuote notBackslash ascii.1]
      exact ⟨_, readStringBody_nil start fuel _⟩
    | unit => exact readStringBody_encodeUnit start (fuel + 1) acc _
    | pair =>
      have hvalid := toNat_valid c
      have hfirst := @readUnitEscape_of_short_pair (0xD800 + (c.toNat - 0x10000) / 0x400)
        (0xDC00 + (c.toNat - 0x10000) % 0x400) (by omega)
      obtain ⟨e, he⟩ := readStringBody_encodeUnit start fuel
        (.ofNat (0xD800 + (c.toNat - 0x10000) / 0x400) :: acc)
        (0xDC00 + (c.toNat - 0x10000) % 0x400)
      refine ⟨e, ?_⟩
      rw [encodeUnit, List.cons_append, List.cons_append, pointsOf_cons, pointsOf_cons,
        readStringBody, hfirst]
      exact he

theorem readStringBody_unclosed (start fuel : Nat) (acc : List CodePoint) (cs : List Char) :
    ∃ e, readStringBody start fuel acc (pointsOf (cs.flatMap encodeChar)) = .error e := by
  induction cs generalizing fuel acc with
  | nil => exact ⟨_, readStringBody_nil start fuel acc⟩
  | cons c r ih =>
    cases r with
    | nil =>
      rw [List.flatMap_cons, List.flatMap_nil, List.append_nil]
      exact (written_encodeChar c).read_last start fuel acc
    | cons d r =>
      cases fuel with
      | zero => exact ⟨_, rfl⟩
      | succ fuel =>
        have hmore : (d :: r).flatMap encodeChar ≠ [] := by
          simp [encodeChar_ne_nil]
        obtain ⟨first, more, hcons⟩ := List.exists_cons_of_ne_nil hmore
        rw [List.flatMap_cons, hcons, (written_encodeChar c).read, ← hcons]
        exact ih fuel (.char c :: acc)

end VarsAdvisor.Json

import Mathlib.Data.List.TakeWhile
import VarsAdvisor.Text.Search
import VarsAdvisor.Text.Utf8

/-!
# Taking apart what was put together

Pieces without the separator come back when what they were joined to is split (`splitOn_join`), and
cutting at the last separator finds the part behind it (`cutAtLast_eq_some_iff`). The bytes of a
text are those of UTF-8 (`Utf8.bytesOf_eq`).
-/

namespace VarsAdvisor.Text

variable {sep : Char}

/-! ## Splitting -/

theorem join_cons {pieces : List (List Char)} (h : pieces ≠ []) (first : List Char) :
    join [sep] (first :: pieces) = first ++ sep :: join [sep] pieces := by
  rw [join, List.append_assoc, List.singleton_append]
  exact h

theorem splitOn_of_not_mem {piece : List Char} (h : sep ∉ piece) : splitOn sep piece = [piece] := by
  induction piece with
  | nil => rfl
  | cons c r ih =>
    rw [List.mem_cons, not_or] at h
    rw [splitOn, if_neg (Ne.symm h.1), ih h.2]

theorem splitOn_append {piece : List Char} (h : sep ∉ piece) (rest : List Char) :
    splitOn sep (piece ++ sep :: rest) = piece :: splitOn sep rest := by
  induction piece with
  | nil => rw [List.nil_append, splitOn, if_pos rfl]
  | cons c r ih =>
    rw [List.mem_cons, not_or] at h
    rw [List.cons_append, splitOn, if_neg (Ne.symm h.1), ih h.2]

theorem splitOn_join {pieces : List (List Char)} (hne : pieces ≠ [])
    (h : ∀ piece ∈ pieces, sep ∉ piece) : splitOn sep (join [sep] pieces) = pieces := by
  induction pieces with
  | nil => exact absurd rfl hne
  | cons first rest ih =>
    rw [List.forall_mem_cons] at h
    cases rest with
    | nil => exact splitOn_of_not_mem h.1
    | cons second rest =>
      rw [join_cons (List.cons_ne_nil _ _), splitOn_append h.1, ih (List.cons_ne_nil _ _) h.2]

theorem splitOn_ne_nil (sep : Char) (cs : List Char) : splitOn sep cs ≠ [] := by
  cases cs with
  | nil => exact List.cons_ne_nil _ _
  | cons c r =>
    rw [splitOn]
    split
    · exact List.cons_ne_nil _ _
    · split <;> exact List.cons_ne_nil _ _

theorem not_mem_of_mem_splitOn {cs piece : List Char} (h : piece ∈ splitOn sep cs) :
    sep ∉ piece := by
  induction cs generalizing piece with
  | nil =>
    rw [List.mem_singleton.1 h]
    exact List.not_mem_nil
  | cons c r ih =>
    rw [splitOn] at h
    split at h
    · rcases List.mem_cons.1 h with rfl | hrest
      · exact List.not_mem_nil
      · exact ih hrest
    · next hc =>
      split at h
      · rw [List.mem_singleton.1 h, List.mem_singleton]
        exact Ne.symm hc
      · next first rest hsplit =>
        rw [hsplit] at ih
        rcases List.mem_cons.1 h with rfl | hrest
        · rw [List.mem_cons, not_or]
          exact ⟨Ne.symm hc, ih List.mem_cons_self⟩
        · exact ih (List.mem_cons_of_mem _ hrest)

/-! ## The last separator -/

section Last

variable {α : Type} [DecidableEq α] {sep : α}

theorem cutAtLast_of_not_mem {cs : List α} (h : sep ∉ cs) : cutAtLast sep cs = none := by
  have hall : cs.reverse.takeWhile (· != sep) = cs.reverse := by
    refine List.takeWhile_eq_self_iff.2 fun c hc => ?_
    rw [bne_iff_ne]
    rintro rfl
    exact h (List.mem_reverse.1 hc)
  unfold cutAtLast
  rw [hall, List.reverse_reverse]
  exact if_neg (Nat.lt_irrefl _)

theorem cutAtLast_append {after : List α} (h : sep ∉ after) (before : List α) :
    cutAtLast sep (before ++ sep :: after) = some (before, after) := by
  have htail : (before ++ sep :: after).reverse.takeWhile (· != sep) = after.reverse := by
    rw [List.reverse_append, List.reverse_cons, List.append_assoc, List.singleton_append,
      List.takeWhile_append_of_pos, List.takeWhile_cons_of_neg (by simp), List.append_nil]
    intro c hc
    rw [bne_iff_ne]
    rintro rfl
    exact h (List.mem_reverse.1 hc)
  have hlength : (before ++ sep :: after).length = before.length + 1 + after.length := by
    rw [List.length_append, List.length_cons]
    omega
  have hfront : before.length + 1 + after.length - after.length - 1 = before.length := by omega
  unfold cutAtLast
  dsimp only
  rw [htail, List.reverse_reverse, hlength, hfront, List.take_left]
  exact if_pos (by omega)

theorem cutAtLast_eq_some_iff {cs before after : List α} :
    cutAtLast sep cs = some (before, after) ↔ cs = before ++ sep :: after ∧ sep ∉ after := by
  constructor
  · intro h
    by_cases hmem : sep ∈ cs
    · obtain ⟨back, front, hcs, hback⟩ := List.eq_append_cons_of_mem (List.mem_reverse.2 hmem)
      have hparts : cs = front.reverse ++ sep :: back.reverse := by
        rw [← List.reverse_reverse cs, hcs]
        simp
      rw [← List.mem_reverse] at hback
      rw [hparts, cutAtLast_append hback] at h
      cases h
      exact ⟨hparts, hback⟩
    · rw [cutAtLast_of_not_mem hmem] at h
      cases h
  · rintro ⟨rfl, h⟩
    exact cutAtLast_append h before

end Last

/-! ## Bytes -/

namespace Utf8

theorem encodeChar_eq (c : Char) : encodeChar c = String.utf8EncodeChar c := by
  have hc : c.val.toNat < 0x110000 := by
    have hvalid := c.valid
    simp only [UInt32.isValidChar, Nat.isValidChar] at hvalid
    omega
  have hnat : c.toNat = c.val.toNat := rfl
  unfold encodeChar String.utf8EncodeChar
  simp only [hnat]
  generalize c.val.toNat = n at hc
  split
  · rw [if_pos (by omega)]
  · split
    · rw [if_neg (by omega), if_pos (by omega), Nat.mod_eq_of_lt (by omega : n / 64 < 32)]
      simp only [Nat.add_comm]
    · split
      · rw [if_neg (by omega), if_neg (by omega), if_pos (by omega),
          Nat.mod_eq_of_lt (by omega : n / 4096 < 16)]
        simp only [Nat.add_comm]
      · rw [if_neg (by omega), if_neg (by omega), if_neg (by omega),
          Nat.mod_eq_of_lt (by omega : n / 262144 < 8)]
        simp only [Nat.add_comm]

/-- The bytes of a text are its UTF-8. -/
theorem bytesOf_eq (s : String) : bytesOf s = s.toUTF8.data.toList := by
  have hbytes : s.toUTF8 = s.toList.utf8Encode :=
    (congrArg String.toUTF8 String.ofList_toList.symm).trans String.toByteArray_ofList
  have hencode : encodeChar = String.utf8EncodeChar := funext encodeChar_eq
  rw [hbytes, bytesOf, encode, hencode]
  simp [List.utf8Encode]

end Utf8

end VarsAdvisor.Text

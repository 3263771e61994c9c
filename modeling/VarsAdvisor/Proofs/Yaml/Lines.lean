import VarsAdvisor.Proofs.Text.Content
import VarsAdvisor.Yaml.Check

/-!
# The lines of syntax findings

The line of a position is the number of line breaks in front of it (`position_line`), so it is at
most the number of breaks of the text. The breaks of a document's text are those between its lines,
one less than there are lines (`breakCount_join`), so a finding about a document is on one of its
lines (`line_of_check`).
-/

namespace VarsAdvisor.Yaml

open VarsAdvisor.Text

/-- The line breaks of a text: line feeds, and carriage returns that no line feed follows. -/
def breakCount : List Char → Nat
  | [] => 0
  | x :: r => (if x = '\n' ∨ (x = '\r' ∧ r.head? ≠ some '\n') then 1 else 0) + breakCount r

/-! ## Positions -/

namespace Cursor

@[simp] theorem rest_next (c : Cursor) : c.next.rest = c.rest.drop 1 := by
  unfold next
  split
  · next h => simp [h]
  · next x r h =>
    rw [h, List.drop_one, List.tail_cons]
    split
    · rfl
    · split <;> rfl

/-- A break that is passed goes from those ahead to the line. -/
theorem line_next (c : Cursor) :
    c.next.line + breakCount c.next.rest = c.line + breakCount c.rest := by
  rw [rest_next]
  unfold next
  split
  · next h => simp [h]
  · next x r h =>
    rw [h, List.drop_one, List.tail_cons, breakCount]
    split
    · dsimp only
      omega
    · split <;> simp

@[simp] theorem rest_advance (c : Cursor) (n : Nat) : (c.advance n).rest = c.rest.drop n := by
  induction n generalizing c with
  | zero => rfl
  | succ n ih => rw [advance, ih, rest_next, List.drop_drop, Nat.add_comm]

theorem line_advance (c : Cursor) (n : Nat) :
    (c.advance n).line + breakCount (c.advance n).rest = c.line + breakCount c.rest := by
  induction n generalizing c with
  | zero => rfl
  | succ n ih => rw [advance, ih, line_next]

end Cursor

/-- The line of a position is the number of breaks in front of it. -/
theorem position_line (text : List Char) (offset : Nat) :
    (position text offset).1 + breakCount (text.drop offset) = breakCount text := by
  have h := (Cursor.start text).line_advance offset
  rw [Cursor.rest_advance, Cursor.start, Nat.zero_add] at h
  exact h

/-! ## Breaks between lines -/

theorem breakCount_append {line : List Char} (h : IsLine line) (rest : List Char) :
    breakCount (line ++ rest) = breakCount rest := by
  induction line with
  | nil => rfl
  | cons c r ih =>
    rw [IsLine, List.forall_mem_cons] at h
    have hfeed : c ≠ '\n' := by
      rintro rfl
      exact absurd h.1 (by decide)
    have hreturn : c ≠ '\r' := by
      rintro rfl
      exact absurd h.1 (by decide)
    rw [List.cons_append, breakCount, ih h.2]
    simp [hfeed, hreturn]

/-- There is one break less than there are lines. -/
theorem breakCount_join {ls : List (List Char)} (hne : ls ≠ []) (h : ∀ l ∈ ls, IsLine l) :
    breakCount (join ['\n'] ls) + 1 = ls.length := by
  induction ls with
  | nil => exact absurd rfl hne
  | cons first rest ih =>
    rw [List.forall_mem_cons] at h
    cases rest with
    | nil =>
      have hlast := breakCount_append h.1 []
      rw [List.append_nil] at hlast
      rw [join, hlast]
      rfl
    | cons second rest =>
      rw [join_cons (List.cons_ne_nil _ _), breakCount_append h.1, breakCount]
      have := ih (List.cons_ne_nil _ _) h.2
      simp only [List.length_cons] at this ⊢
      simp only [true_or, if_true]
      omega

/-! ## Findings -/

/-- A finding is the one about a problem of the text. -/
theorem finding_of_check {text : String} {found : Finding} (h : check text = .ok (some found)) :
    ∃ p place, found = findingOf text.toList p place := by
  unfold check at h
  split at h
  · cases h
  · next p place _ =>
    cases h
    exact ⟨p, place, rfl⟩
  · cases h

theorem line_findingOf (text : List Char) (p : Problem) (place : Option Nat) :
    1 ≤ (findingOf text p place).line ∧ (findingOf text p place).line ≤ breakCount text + 1 := by
  cases place with
  | none => exact ⟨Nat.le_refl 1, Nat.le_add_left 1 _⟩
  | some offset =>
    have hline : (findingOf text p (some offset)).line = (position text offset).1 + 1 := rfl
    have hbreaks := position_line text offset
    omega

/-- Nothing is wrong with a document without lines. -/
theorem check_of_no_lines {d : Document} (h : d.lines = []) : check d.joinedText = .ok none := by
  have hempty : d.joinedText = "" := by
    rw [Document.joinedText, h]
    rfl
  rw [hempty]
  decide +kernel

/-- A finding about a document is on one of its lines. -/
theorem line_of_check {d : Document} (hd : ∀ line ∈ d.lines, IsLine line.toList) {found : Finding}
    (h : check d.joinedText = .ok (some found)) : 1 ≤ found.line ∧ found.line ≤ d.lineCount := by
  have hne : d.lines ≠ [] := by
    intro hnone
    rw [check_of_no_lines hnone] at h
    cases h
  obtain ⟨p, place, rfl⟩ := finding_of_check h
  obtain ⟨hfirst, hlast⟩ := line_findingOf d.joinedText.toList p place
  have hbreaks : breakCount d.joinedText.toList + 1 = d.lineCount := by
    have hsome : d.lines.map String.toList ≠ [] := by simpa using hne
    have hcount := breakCount_join hsome (List.forall_mem_map.2 hd)
    rw [List.length_map] at hcount
    rw [Document.joinedText, joined, String.toList_ofList]
    exact hcount
  exact ⟨hfirst, by omega⟩

end VarsAdvisor.Yaml

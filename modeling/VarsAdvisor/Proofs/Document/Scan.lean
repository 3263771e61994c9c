import VarsAdvisor.Document.Resolve
import VarsAdvisor.Proofs.Except
import VarsAdvisor.Proofs.Text.Parts
import VarsAdvisor.Proofs.Text.Trim

/-!
# Scans of a document

Both scans go forward from the cursor. The one for a field name passes over lines that do not show
the name (`findKey_append`). The one for a position passes over lines that are no items, and once
the indentation is set, over items behind another one (`findItem_append`). So a segment leads from
the cursor to a line that is known from the lines between them (`advance_key`, `advance_index`).
-/

namespace VarsAdvisor

open VarsAdvisor.Text

/-! ## Segments -/

/-- The segment selects the item with this position: it is written in ASCII digits, which are not
too many to be read. -/
structure Segment.Selects (s : Segment) (n : Nat) : Prop where
  kind : s.kind = .index
  digits : isDigits s.value.toList = true
  length : s.value.toList.length ≤ maxNumeralDigits
  value : digitsValue 0 (s.value.toList.map fun c => c.toNat - 48) = n

theorem Segment.Selects.position {s : Segment} {n : Nat} (h : s.Selects n) :
    s.position = .ok (n : Int) := by
  have hdigits := h.digits
  unfold isDigits at hdigits
  rw [Bool.and_eq_true, Bool.not_eq_true', List.isEmpty_eq_false_iff, List.all_eq_true] at hdigits
  have hparse := parseInt_of_ascii hdigits.1 hdigits.2
  rw [String.ofList_toList, if_neg (Nat.not_lt.2 h.length), h.value] at hparse
  unfold Segment.position
  rw [h.kind, hparse]
  rfl

namespace Document

/-! ## Field names -/

/-- The line shows a field name. -/
def shows (key line : String) : Bool :=
  occurs key.toList (trim line.toList)

variable {key : String} {before after : List String} {line : String} {number : Nat}

theorem findKey_append (h : ∀ l ∈ before, shows key l = false) (number : Nat)
    (rest : List String) :
    findKey key.toList number (before ++ rest) =
      findKey key.toList (number + before.length) rest := by
  induction before generalizing number with
  | nil => rfl
  | cons l before ih =>
    rw [List.forall_mem_cons] at h
    have hl : ¬ occurs key.toList (trim l.toList) = true := by
      rw [Bool.not_eq_true]
      exact h.1
    rw [List.cons_append, findKey, if_neg hl, ih h.2, List.length_cons, Nat.add_right_comm,
      Nat.add_assoc]

theorem findKey_first (h : ∀ l ∈ before, shows key l = false) (hline : shows key line = true)
    (number : Nat) (after : List String) :
    findKey key.toList number (before ++ line :: after) = some (number + before.length) := by
  rw [findKey_append h, findKey]
  exact if_pos hline

theorem findKey_none (h : ∀ l ∈ before, shows key l = false) (number : Nat) :
    findKey key.toList number before = none := by
  have happend := findKey_append h number []
  rwa [List.append_nil] at happend

/-! ## Items -/

variable {position count : Int} {indent : List Char} {indent? : Option (List Char)}

/-- A line that is no item is passed over, and so is an item behind another indentation than the
one that is set. -/
theorem findItem_cons (h : isItem line.toList = false ∨
      ∃ indent, indent? = some indent ∧ isItemAt indent line.toList = false)
    (count : Int) (number : Nat) (rest : List String) :
    findItem position indent? count number (line :: rest) =
      findItem position indent? count (number + 1) rest := by
  rw [findItem]
  rcases h with hitem | ⟨indent, rfl, hat⟩
  · simp [hitem]
  · simp [hat]

theorem findItem_append (h : ∀ l ∈ before, isItem l.toList = false ∨
      ∃ indent, indent? = some indent ∧ isItemAt indent l.toList = false)
    (count : Int) (number : Nat) (rest : List String) :
    findItem position indent? count number (before ++ rest) =
      findItem position indent? count (number + before.length) rest := by
  induction before generalizing number with
  | nil => rfl
  | cons l before ih =>
    rw [List.forall_mem_cons] at h
    rw [List.cons_append, findItem_cons h.1, ih h.2, List.length_cons, Nat.add_right_comm,
      Nat.add_assoc]

theorem isItem_of_blank (h : isBlankText line = true) : isItem line.toList = false := by
  unfold isItem
  rw [trim_of_blank h]
  rfl

/-- A line that goes on behind an indentation with a blank has no mark there. -/
theorem isItemAt_of_blank {cs : List Char} {b : Char} (hb : isBlank b = true)
    (h : indent ++ [b] <+: cs) : isItemAt indent cs = false := by
  rw [← Bool.not_eq_true]
  intro hat
  have hmark : indent ++ ['-'] <+: cs := List.isPrefixOf_iff_prefix.1 hat
  have hlength : (indent ++ ['-']).length = (indent ++ [b]).length := by simp
  have hsame := List.append_cancel_left
    ((List.prefix_of_prefix_length_le hmark h hlength.le).eq_of_length hlength)
  rw [← List.singleton_injective hsame] at hb
  exact absurd hb (by decide)

/-- The first item sets the indentation. -/
theorem findItem_none_of_item (h : isItem line.toList = true) (rest : List String) :
    findItem position none count number (line :: rest) =
      findItem position (some (indentation line.toList)) count number (line :: rest) := by
  rw [findItem, findItem]
  simp [h]

/-- An item behind the indentation that is set is counted, or is the one that is looked for. -/
theorem findItem_some_of_item (h : isItem line.toList = true) (hat : isItemAt indent line.toList)
    (rest : List String) :
    findItem position (some indent) count number (line :: rest) =
      if count = position then some number
      else findItem position (some indent) (count + 1) (number + 1) rest := by
  rw [findItem]
  simp [h, hat]

/-! ## Cursors -/

variable {d : Document} {cursor : Nat}

theorem linesFrom_add (h : 1 ≤ cursor) (n : Nat) :
    d.linesFrom (cursor + n) = (d.linesFrom cursor).drop n := by
  unfold linesFrom
  rw [List.drop_drop, Nat.sub_add_comm h]

/-- What stands from a line on, if it is known what stands from an earlier one on. -/
theorem linesFrom_of_append (h : 1 ≤ cursor) {rest : List String}
    (hlines : d.linesFrom cursor = before ++ rest) :
    d.linesFrom (cursor + before.length) = rest := by
  rw [linesFrom_add h, hlines, List.drop_left]

/-- A field name leads to the first line that shows it. -/
theorem advance_key (hlines : d.linesFrom cursor = before ++ line :: after)
    (h : ∀ l ∈ before, shows key l = false) (hline : shows key line = true) :
    d.advance cursor ⟨.key, key⟩ = .ok (cursor + before.length) := by
  unfold advance find?
  dsimp only
  rw [hlines, findKey_first h hline]
  rfl

/-- A field name that no line shows leaves the cursor where it is. -/
theorem advance_key_none (h : ∀ l ∈ d.linesFrom cursor, shows key l = false) :
    d.advance cursor ⟨.key, key⟩ = .ok cursor := by
  unfold advance find?
  dsimp only
  rw [findKey_none h]
  rfl

/-- A position leads to the item that the scan finds. -/
theorem advance_index {s : Segment} {n line : Nat} (hs : s.Selects n)
    (hfind : findItem n none 0 cursor (d.linesFrom cursor) = some line) :
    d.advance cursor s = .ok line := by
  unfold advance find?
  rw [hs.kind, hs.position]
  dsimp only [bind, Except.bind, pure, Except.pure]
  rw [hfind]
  rfl

end Document

end VarsAdvisor

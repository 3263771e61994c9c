import VarsAdvisor.Proofs.Document.Scan

/-!
# The items that a scan counts

Both scans of a document, said without the scans. The one for a field name finds the first line
that shows it (`findKey_eq`). The one for a position counts the items behind one indentation, which
is that of the first item it meets: it finds the item at this place among `listItems`
(`findItem_eq`). Counting from a later number shifts all numbers (`listItems_add`), and lines behind
take no item away (`listItems_isPrefix`).
-/

namespace VarsAdvisor.Document

open VarsAdvisor.Text

variable {key : String} {indent : List Char} {position count : Int} {number k r : Nat}
  {line : String} {lines after : List String}

/-! ## Field names -/

theorem findKey_eq (key : String) (number : Nat) (lines : List String) :
    findKey key.toList number lines = (lines.findIdx? (shows key)).map (number + ·) := by
  induction lines generalizing number with
  | nil => rfl
  | cons line lines ih =>
    rw [findKey, List.findIdx?_cons, ih]
    change (if shows key line = true then _ else _) = _
    by_cases h : shows key line = true
    · simp [h]
    · simp [h, Function.comp_def, Nat.add_comm, Nat.add_left_comm]

theorem findKey_add (key : String) (number k : Nat) (lines : List String) :
    findKey key.toList (number + k) lines = (findKey key.toList number lines).map (· + k) := by
  simp [findKey_eq, Function.comp_def, Nat.add_right_comm]

theorem findKey_append_of_some (h : findKey key.toList number lines = some r)
    (after : List String) : findKey key.toList number (lines ++ after) = some r := by
  rw [findKey_eq] at h ⊢
  obtain ⟨i, hi, rfl⟩ := Option.map_eq_some_iff.1 h
  rw [List.findIdx?_append, hi]
  rfl

/-! ## Items behind an indentation -/

/-- The line is an item behind exactly this indentation. -/
def isListed (indent : List Char) (line : String) : Bool :=
  isItem line.toList && isItemAt indent line.toList

/-- The numbers of the items behind an indentation, the lines counted from `number`. -/
def itemsBehind (indent : List Char) (number : Nat) (lines : List String) : List Nat :=
  ((lines.zipIdx number).filter fun entry => isListed indent entry.1).map (·.2)

@[simp] theorem itemsBehind_nil : itemsBehind indent number [] = [] :=
  rfl

theorem itemsBehind_cons_of_pos (h : isListed indent line = true) :
    itemsBehind indent number (line :: lines) =
      number :: itemsBehind indent (number + 1) lines := by
  simp [itemsBehind, h]

theorem itemsBehind_cons_of_neg (h : isListed indent line = false) :
    itemsBehind indent number (line :: lines) = itemsBehind indent (number + 1) lines := by
  simp [itemsBehind, h]

theorem itemsBehind_append :
    itemsBehind indent number (lines ++ after) =
      itemsBehind indent number lines ++ itemsBehind indent (number + lines.length) after := by
  simp [itemsBehind, List.zipIdx_append]

theorem itemsBehind_eq_nil (h : ∀ l ∈ lines, isListed indent l = false) :
    itemsBehind indent number lines = [] := by
  induction lines generalizing number with
  | nil => rfl
  | cons line lines ih =>
    rw [List.forall_mem_cons] at h
    rw [itemsBehind_cons_of_neg h.1, ih h.2]

theorem itemsBehind_add :
    itemsBehind indent (number + k) lines = (itemsBehind indent number lines).map (· + k) := by
  induction lines generalizing number with
  | nil => rfl
  | cons line lines ih =>
    have hrest : itemsBehind indent (number + k + 1) lines =
        (itemsBehind indent (number + 1) lines).map (· + k) := by
      rw [Nat.add_right_comm, ih]
    cases h : isListed indent line with
    | true => simp [itemsBehind_cons_of_pos h, hrest]
    | false => simp [itemsBehind_cons_of_neg h, hrest]

/-- The number of an item is that of its line. -/
theorem mem_itemsBehind (h : r ∈ itemsBehind indent number lines) :
    number ≤ r ∧ ∃ line, lines[r - number]? = some line ∧ isListed indent line = true := by
  obtain ⟨⟨line, r'⟩, hentry, rfl⟩ := List.mem_map.1 h
  obtain ⟨hmem, hlisted⟩ := List.mem_filter.1 hentry
  obtain ⟨hle, hget⟩ := List.mk_mem_zipIdx_iff_le_and_getElem?_sub.1 hmem
  exact ⟨hle, line, hget, hlisted⟩

/-- Once the indentation is set, the scan finds the item that is as far on as the position is ahead
of the count. -/
theorem findItem_some_eq (position count : Int) :
    findItem position (some indent) count number lines =
      if count ≤ position then (itemsBehind indent number lines)[(position - count).toNat]?
      else none := by
  induction lines generalizing count number with
  | nil => simp [findItem]
  | cons line lines ih =>
    cases h : isListed indent line with
    | false =>
      have hpass : isItem line.toList = false ∨
          ∃ at_, some indent = some at_ ∧ isItemAt at_ line.toList = false := by
        rcases Bool.and_eq_false_iff.1 h with hitem | hat
        · exact .inl hitem
        · exact .inr ⟨indent, rfl, hat⟩
      rw [findItem_cons hpass, ih, itemsBehind_cons_of_neg h]
    | true =>
      obtain ⟨hitem, hat⟩ := Bool.and_eq_true_iff.1 h
      rw [findItem_some_of_item hitem hat, ih, itemsBehind_cons_of_pos h]
      by_cases heq : count = position
      · simp [heq]
      · rw [if_neg heq]
        by_cases hle : count + 1 ≤ position
        · have hnext : (position - count).toNat = (position - (count + 1)).toNat + 1 := by omega
          rw [if_pos hle, if_pos (by omega), hnext, List.getElem?_cons_succ]
        · rw [if_neg hle, if_neg (by omega)]

/-! ## Items of the first list -/

/-- The numbers of the items of the list that is met first: those behind the indentation of the
first item. -/
def listItems (number : Nat) (lines : List String) : List Nat :=
  match lines.find? fun line => isItem line.toList with
  | none => []
  | some first => itemsBehind (indentation first.toList) number lines

theorem listItems_add :
    listItems (number + k) lines = (listItems number lines).map (· + k) := by
  unfold listItems
  split
  · rfl
  · exact itemsBehind_add

theorem listItems_isPrefix :
    listItems number lines <+: listItems number (lines ++ after) := by
  unfold listItems
  rw [List.find?_append]
  cases lines.find? fun line => isItem line.toList with
  | none => exact List.nil_prefix
  | some first =>
    change itemsBehind _ number lines <+: itemsBehind _ number (lines ++ after)
    rw [itemsBehind_append]
    exact List.prefix_append _ _

/-- An item has its mark right behind its indentation. -/
theorem eq_indentation_append {cs : List Char} (h : isItem cs = true) :
    ∃ rest, cs = indentation cs ++ '-' :: rest := by
  have htrim : (trim cs).head? = some '-' := by simpa [isItem] using h
  obtain ⟨rest, hrest⟩ := List.head?_eq_some_iff.1 htrim
  obtain ⟨behind, hbehind⟩ : trim cs <+: trimStart cs := dropTrailing_isPrefix isBlank _
  refine ⟨rest ++ behind, ?_⟩
  rw [← List.cons_append, ← hrest, hbehind]
  exact List.takeWhile_append_dropWhile.symm

theorem isListed_indentation (h : isItem line.toList = true) :
    isListed (indentation line.toList) line = true := by
  obtain ⟨rest, hrest⟩ := eq_indentation_append h
  have hat : isItemAt (indentation line.toList) line.toList = true :=
    List.isPrefixOf_iff_prefix.2 ⟨rest, by rw [List.append_assoc]; exact hrest.symm⟩
  rw [isListed, h, hat, Bool.and_self]

/-- The first of the lines is an item, so it sets the indentation and is the first of its list. -/
theorem listItems_cons_of_item (h : isItem line.toList = true) :
    listItems number (line :: lines) =
      number :: itemsBehind (indentation line.toList) (number + 1) lines := by
  rw [← itemsBehind_cons_of_pos (isListed_indentation h)]
  simp [listItems, h]

theorem listItems_cons_of_not_item (h : isItem line.toList = false) :
    listItems number (line :: lines) = listItems (number + 1) lines := by
  unfold listItems
  rw [List.find?_cons_of_neg (by simp [h])]
  cases lines.find? fun line => isItem line.toList with
  | none => rfl
  | some first => exact itemsBehind_cons_of_neg (by simp [isListed, h])

theorem mem_listItems (h : r ∈ listItems number lines) :
    number ≤ r ∧ ∃ line, lines[r - number]? = some line ∧ isItem line.toList = true := by
  unfold listItems at h
  split at h
  · cases h
  · obtain ⟨hle, line, hget, hlisted⟩ := mem_itemsBehind h
    exact ⟨hle, line, hget, (Bool.and_eq_true_iff.1 hlisted).1⟩

/-- The scan for a position finds the item at this place in the list that is met first, and nothing
at a negative place. -/
theorem findItem_eq (position : Int) (number : Nat) (lines : List String) :
    findItem position none 0 number lines =
      if 0 ≤ position then (listItems number lines)[position.toNat]? else none := by
  induction lines generalizing number with
  | nil => simp [findItem, listItems]
  | cons line lines ih =>
    cases h : isItem line.toList with
    | true =>
      rw [findItem_none_of_item h, findItem_some_eq, Int.sub_zero, listItems_cons_of_item h,
        itemsBehind_cons_of_pos (isListed_indentation h)]
    | false =>
      rw [findItem_cons (.inl h), ih, listItems_cons_of_not_item h]

theorem findItem_add (position : Int) (number k : Nat) (lines : List String) :
    findItem position none 0 (number + k) lines =
      (findItem position none 0 number lines).map (· + k) := by
  rw [findItem_eq, findItem_eq, listItems_add, List.getElem?_map]
  split <;> rfl

theorem findItem_eq_some_iff :
    findItem position none 0 number lines = some r ↔
      ∃ n : Nat, position = n ∧ (listItems number lines)[n]? = some r := by
  rw [findItem_eq]
  constructor
  · intro h
    split at h
    · next hpos => exact ⟨position.toNat, (Int.toNat_of_nonneg hpos).symm, h⟩
    · cases h
  · rintro ⟨n, rfl, h⟩
    rwa [if_pos (Int.natCast_nonneg n), Int.toNat_natCast]

theorem findItem_append_of_some (h : findItem position none 0 number lines = some r)
    (after : List String) : findItem position none 0 number (lines ++ after) = some r := by
  obtain ⟨n, rfl, hget⟩ := findItem_eq_some_iff.1 h
  have hfront : listItems number lines <+: listItems number (lines ++ after) := listItems_isPrefix
  obtain ⟨more, hmore⟩ := hfront
  have hlt := (List.getElem?_eq_some_iff.1 hget).1
  refine findItem_eq_some_iff.2 ⟨n, rfl, ?_⟩
  rw [← hmore, List.getElem?_append_left hlt, hget]

/-- A position leads to the item at this place in the list that is met first, and nowhere if there
is none. -/
theorem advance_position {s : Segment} {n : Nat} (h : s.position = .ok (n : Int)) (d : Document)
    (cursor : Nat) :
    d.advance cursor s = .ok ((listItems cursor (d.linesFrom cursor))[n]?.getD cursor) := by
  obtain ⟨kind, value⟩ := s
  cases kind with
  | key => cases h
  | index =>
    unfold advance find?
    dsimp only
    rw [h, except_ok_bind, findItem_eq, if_pos (Int.natCast_nonneg n), Int.toNat_natCast]
    rfl

end VarsAdvisor.Document

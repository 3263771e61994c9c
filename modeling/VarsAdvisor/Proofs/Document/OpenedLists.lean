import VarsAdvisor.Proofs.Document.BlockLists
import VarsAdvisor.Proofs.Document.Forward

/-!
# Lists right below their names

The items of a list may follow right below the line with its name. If that line is no item itself,
it heads a `BlockList`, and a position leads from it to the item. In the compact layout the line is
an item of another list (`- name:`). The scan begins at this line, so it counts the items of that
other list: from such a line no position leads into the list below (`resolve_opened_iff`).
-/

namespace VarsAdvisor.Document

open VarsAdvisor.Text

/-- A list whose items follow right below the line that shows its name. If that line is an item,
they stand deeper. -/
structure OpenedList (key : String) (indent : List Char) where
  keyLine : String
  items : List (Item indent)
  blank : ∀ b ∈ indent, isBlank b = true
  named : shows key keyLine = true
  nonempty : items ≠ []
  deeper : isItem keyLine.toList = true →
    ∃ b rest, indentation keyLine.toList ++ b :: rest = indent

namespace OpenedList

variable {key : String} {indent : List Char} {n number : Nat} {after : List String}

/-- The lines of the list, that with the name first. -/
def lines (b : OpenedList key indent) : List String :=
  b.keyLine :: b.items.flatMap Item.lines

/-- How many lines below the one with the name an item stands. -/
def itemOffset (b : OpenedList key indent) (n : Nat) : Nat :=
  1 + ((b.items.take n).flatMap Item.lines).length

theorem itemOffset_pos (b : OpenedList key indent) (n : Nat) : 0 < b.itemOffset n := by
  unfold itemOffset
  omega

theorem itemOffset_lt (b : OpenedList key indent) (h : n < b.items.length) :
    b.itemOffset n < b.lines.length := by
  have hsplit := congrArg List.length (Item.flatMap_lines_eq h)
  have hline : 0 < b.items[n].lines.length := Nat.succ_pos _
  rw [List.length_append, List.length_append] at hsplit
  unfold itemOffset lines
  rw [List.length_cons]
  omega

/-- The line `- name:` behind an indentation. -/
def compactLine (outer : List Char) (key : String) : String :=
  String.ofList (outer ++ '-' :: (' ' :: key.toList ++ [':']))

theorem trim_compactLine {outer : List Char} (h : ∀ b ∈ outer, isBlank b = true) :
    trim (compactLine outer key).toList = '-' :: (' ' :: key.toList ++ [':']) := by
  have hstart : trimStart (compactLine outer key).toList =
      '-' :: ' ' :: key.toList ++ [':'] := by
    unfold trimStart compactLine
    rw [String.toList_ofList, List.dropWhile_append_of_pos h,
      List.dropWhile_cons_of_neg (by decide)]
    rfl
  unfold trim trimEnd
  rw [hstart, dropTrailing_concat_of_neg (by decide)]
  rfl

theorem shows_compactLine {outer : List Char} (h : ∀ b ∈ outer, isBlank b = true) :
    shows key (compactLine outer key) = true := by
  unfold shows
  rw [trim_compactLine h, occurs_iff]
  exact ⟨['-', ' '], [':'], rfl⟩

theorem isItem_compactLine {outer : List Char} (h : ∀ b ∈ outer, isBlank b = true) :
    isItem (compactLine outer key).toList = true := by
  unfold isItem
  rw [trim_compactLine h]
  rfl

theorem indentation_compactLine {outer : List Char} (h : ∀ b ∈ outer, isBlank b = true) :
    indentation (compactLine outer key).toList = outer := by
  unfold indentation compactLine
  rw [String.toList_ofList, List.takeWhile_append_of_pos h, List.takeWhile_cons_of_neg (by decide),
    List.append_nil]

/-- A list below `- name:`. -/
def compact (outer : List Char) (key : String) {inner : List Char}
    (blank : ∀ b ∈ outer ++ inner, isBlank b = true) (deeper : inner ≠ [])
    (items : List (Item (outer ++ inner))) (nonempty : items ≠ []) :
    OpenedList key (outer ++ inner) where
  keyLine := compactLine outer key
  items := items
  blank := blank
  named := shows_compactLine (List.forall_mem_append.1 blank).1
  nonempty := nonempty
  deeper := by
    intro _
    obtain ⟨b, rest, hinner⟩ := List.exists_cons_of_ne_nil deeper
    exact ⟨b, rest, by rw [indentation_compactLine (List.forall_mem_append.1 blank).1, hinner]⟩

/-! ## The name on a line of its own -/

/-- Where the line with the name is no item, it heads a block list. -/
theorem getElem?_listItems_of_not_item (b : OpenedList key indent)
    (h : isItem b.keyLine.toList = false) (inside : n < b.items.length) (number : Nat)
    (after : List String) :
    (listItems number (b.lines ++ after))[n]? = some (number + b.itemOffset n) := by
  let list : BlockList key indent :=
    .ofItems b.keyLine b.items b.blank b.named h b.nonempty
  have hfind := list.findItem_lines inside number after
  rwa [findItem_eq, if_pos (Int.natCast_nonneg n), Int.toNat_natCast] at hfind

/-! ## The name in a line that is an item -/

/-- No line of the items is an item of the outer list. -/
theorem not_listed (b : OpenedList key indent) (h : isItem b.keyLine.toList = true) :
    ∀ l ∈ b.items.flatMap Item.lines, isListed (indentation b.keyLine.toList) l = false := by
  intro l hl
  obtain ⟨c, rest, hindent⟩ := b.deeper h
  have hc : isBlank c = true := by
    have hmem : c ∈ indentation b.keyLine.toList ++ c :: rest := by simp
    rw [hindent] at hmem
    exact b.blank c hmem
  have hbegins : ∀ tail, indent ++ tail <+: l.toList →
      indentation b.keyLine.toList ++ [c] <+: l.toList := by
    intro tail htail
    have hsplit : indentation b.keyLine.toList ++ [c] ++ (rest ++ tail) = indent ++ tail := by
      simpa using congrArg (· ++ tail) hindent
    exact List.IsPrefix.trans ⟨rest ++ tail, hsplit⟩ htail
  obtain ⟨i, -, hl⟩ := List.mem_flatMap.1 hl
  rcases List.mem_cons.1 hl with rfl | hl
  · rw [isListed, isItemAt_of_blank hc (hbegins _ i.marked), Bool.and_false]
  · rcases i.deeper l hl with hblank | ⟨b', -, hbehind⟩
    · rw [isListed, isItem_of_blank hblank, Bool.false_and]
    · rw [isListed, isItemAt_of_blank hc (hbegins _ hbehind), Bool.and_false]

/-- From a line that is an item, the list that is met first is the outer one. -/
theorem listItems_of_item (b : OpenedList key indent) (h : isItem b.keyLine.toList = true)
    (number : Nat) (after : List String) :
    listItems number (b.lines ++ after) =
      number :: itemsBehind (indentation b.keyLine.toList) (number + b.lines.length) after := by
  have hlines : b.lines ++ after = b.keyLine :: (b.items.flatMap Item.lines ++ after) := rfl
  rw [hlines, listItems_cons_of_item h, itemsBehind_append, itemsBehind_eq_nil (b.not_listed h),
    List.nil_append, Nat.add_assoc, Nat.add_comm 1]
  rfl

/-- What is selected from such a line is the line itself or stands behind the list below it. -/
theorem getD_listItems_ne (b : OpenedList key indent) (h : isItem b.keyLine.toList = true)
    (inside : n < b.items.length) (number : Nat) (after : List String) :
    (listItems number (b.lines ++ after))[n]?.getD number ≠ number + b.itemOffset n := by
  have hpos := b.itemOffset_pos n
  have hlt := b.itemOffset_lt inside
  rw [b.listItems_of_item h]
  cases hget : (number :: itemsBehind (indentation b.keyLine.toList)
      (number + b.lines.length) after)[n]? with
  | none =>
    rw [Option.getD_none]
    omega
  | some line =>
    rw [Option.getD_some]
    rcases List.mem_cons.1 (List.mem_of_getElem? hget) with rfl | hmem
    · omega
    · have hle := (mem_itemsBehind hmem).1
      omega

end OpenedList

/-! ## Resolution -/

variable {d : Document} {key : String} {indent : List Char} {s : Segment} {n cursor : Nat}
  {path : KeyPath} {after : List String}

/-- From where a path leads, a name that is shown there leads no further and the position selects
among the items from there on. -/
theorem resolve_opened (hpath : d.follow path = .ok cursor) (b : OpenedList key indent)
    (hlines : d.linesFrom cursor = b.lines ++ after) (hposition : s.position = .ok (n : Int)) :
    d.resolve (path ++ [⟨.key, key⟩, s]) =
      .ok ((listItems cursor (b.lines ++ after))[n]?.getD cursor) := by
  have hlong : 2 ≤ (path ++ [⟨.key, key⟩, s]).length := by simp
  have hkeyLine : d.linesFrom cursor =
      [] ++ b.keyLine :: (b.items.flatMap Item.lines ++ after) := hlines
  have hname : d.advance cursor ⟨.key, key⟩ = .ok cursor :=
    advance_key hkeyLine (fun _ hl => nomatch hl) b.named
  rw [follow_eq] at hpath
  rw [resolve_of_long hlong, List.foldlM_append, hpath, except_ok_bind, List.foldlM_cons, hname,
    except_ok_bind, List.foldlM_cons, advance_position hposition, except_ok_bind, hlines]
  rfl

/-- A path leads to the line with the name of a list whose items follow right below. With this name
and a position in the list, it leads on to the item if and only if that line is no item itself. If
it is one, the item at the position among those of the outer list is selected, this line the first
of them, and without such an item the path stays at this line. -/
theorem resolve_opened_iff (d : Document) (path : KeyPath) (cursor : Nat)
    (hpath : d.follow path = .ok cursor) (b : OpenedList key indent) (after : List String)
    (hlines : d.linesFrom cursor = b.lines ++ after) (s : Segment) (n : Nat)
    (selects : s.Selects n) (inside : n < b.items.length) :
    (d.resolve (path ++ [⟨.key, key⟩, s]) = .ok (cursor + b.itemOffset n) ↔
      isItem b.keyLine.toList = false) ∧
    (isItem b.keyLine.toList = true →
      d.resolve (path ++ [⟨.key, key⟩, s]) =
        .ok ((cursor :: itemsBehind (indentation b.keyLine.toList) (cursor + b.lines.length)
          after)[n]?.getD cursor)) := by
  have hresolve := resolve_opened hpath b hlines selects.position
  refine ⟨⟨?_, ?_⟩, ?_⟩
  · intro h
    rw [← Bool.not_eq_true]
    intro hitem
    rw [hresolve] at h
    exact b.getD_listItems_ne hitem inside cursor after (Except.ok.inj h)
  · intro hitem
    rw [hresolve, b.getElem?_listItems_of_not_item hitem inside]
    rfl
  · intro hitem
    rw [hresolve, b.listItems_of_item hitem]

/-- A list of two networks in the compact layout. -/
def vlanList : OpenedList "vlans" ("  ".toList ++ "    ".toList) :=
  .compact "  ".toList "vlans" (List.all_eq_true.1 (by decide)) (by decide)
    [⟨"      - id: 1", ["        name: x"], by decide, deeper_of_space (by decide)⟩,
      ⟨"      - id: 2", [], by decide, deeper_of_space (by decide)⟩] (by decide)

theorem resolve_opened_iff_vlans :
    let d : Document := ⟨"sites:" :: vlanList.lines ++ ["    name: a", "  - name: b"]⟩
    let path : KeyPath := [⟨.key, "sites"⟩, ⟨.index, "0"⟩]
    let s : Segment := ⟨.index, "1"⟩
    d.follow path = .ok 2 ∧ s.Selects 1 ∧ 1 < vlanList.items.length ∧
      isItem vlanList.keyLine.toList = true ∧
      d.resolve (path ++ [⟨.key, "vlans"⟩, s]) ≠ .ok (2 + vlanList.itemOffset 1) ∧
      d.resolve (path ++ [⟨.key, "vlans"⟩, s]) = .ok 7 := by
  intro d path s
  have hpath : d.follow path = .ok 2 := by decide
  have hselects : s.Selects 1 := ⟨rfl, by decide, by decide, by decide⟩
  have hitem : isItem vlanList.keyLine.toList = true :=
    OpenedList.isItem_compactLine (List.all_eq_true.1 (by decide))
  obtain ⟨hiff, hother⟩ := resolve_opened_iff d path 2 hpath vlanList
    ["    name: a", "  - name: b"] rfl s 1 hselects (by decide)
  refine ⟨hpath, hselects, by decide, hitem, ?_, hother hitem⟩
  intro h
  exact absurd (hiff.1 h) (by rw [hitem]; decide)

/-- In the compact layout the first network is taken for the site that it belongs to, the second
one for the next site. -/
theorem compact_list_passed_by :
    let d : Document := ⟨"sites:" :: vlanList.lines ++ ["    name: a", "  - name: b"]⟩
    let path : KeyPath := [⟨.key, "sites"⟩, ⟨.index, "0"⟩]
    d.lines = ["sites:", "  - vlans:", "      - id: 1", "        name: x", "      - id: 2",
        "    name: a", "  - name: b"] ∧
      d.resolve path = .ok 2 ∧ 2 + vlanList.itemOffset 0 = 3 ∧ 2 + vlanList.itemOffset 1 = 5 ∧
      d.resolve (path ++ [⟨.key, "vlans"⟩, ⟨.index, "0"⟩]) = .ok 2 ∧
      d.resolve (path ++ [⟨.key, "vlans"⟩, ⟨.index, "1"⟩]) = .ok 7 := by
  decide

end VarsAdvisor.Document

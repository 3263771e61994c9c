import VarsAdvisor.Proofs.Document.Scan

/-!
# Nested block lists

A block list stands under the line that shows its field name: its items start behind one
indentation, and the lines of an item's body are blank or lie deeper. So from the line with the
name the scan counts exactly the items of the list (`BlockList.findItem_lines`): whatever an item's
body holds, lists of its own included, and whatever stands behind the list is not counted.

`Leads` is the chain of a list, an item of it, a list in that item, and so on. A path that names
the lists and the positions of the items of such a chain leads to the last item
(`resolve_leads`).
-/

namespace VarsAdvisor.Document

open VarsAdvisor.Text

/-! ## Items -/

/-- An item of a block list: its line has the mark right behind the list's indentation, and each
line of its body is blank or goes on behind the indentation with a blank. -/
structure Item (indent : List Char) where
  line : String
  body : List String
  marked : indent ++ ['-'] <+: line.toList
  deeper : ∀ l ∈ body, isBlankText l = true ∨
    ∃ b, isBlank b = true ∧ indent ++ [b] <+: l.toList

namespace Item

variable {indent : List Char} {position : Int}

/-- The lines of an item. -/
def lines (i : Item indent) : List String :=
  i.line :: i.body

theorem isItemAt_line (i : Item indent) : isItemAt indent i.line.toList = true :=
  List.isPrefixOf_iff_prefix.2 i.marked

theorem isItem_line (i : Item indent) (h : ∀ b ∈ indent, isBlank b = true) :
    isItem i.line.toList = true := by
  obtain ⟨rest, hrest⟩ := i.marked
  have hhead := head?_trim h (show isBlank '-' = false from rfl) rest
  unfold isItem
  rw [← hrest, List.append_assoc, List.singleton_append, hhead]
  rfl

theorem indentation_line (i : Item indent) (h : ∀ b ∈ indent, isBlank b = true) :
    indentation i.line.toList = indent := by
  obtain ⟨rest, hrest⟩ := i.marked
  have hmark : ¬ isBlank '-' = true := by decide
  unfold indentation
  rw [← hrest, List.append_assoc, List.takeWhile_append_of_pos h, List.singleton_append,
    List.takeWhile_cons_of_neg hmark, List.append_nil]

/-- No line of an item's body is an item of the same list. -/
theorem body_passed (i : Item indent) : ∀ l ∈ i.body, isItem l.toList = false ∨
    ∃ at_, some indent = some at_ ∧ isItemAt at_ l.toList = false := by
  intro l hl
  rcases i.deeper l hl with hblank | ⟨b, hb, hbegins⟩
  · exact .inl (isItem_of_blank hblank)
  · exact .inr ⟨indent, rfl, isItemAt_of_blank hb hbegins⟩

/-- Over the lines of an item, the scan for another one counts one. -/
theorem findItem_lines_ne (i : Item indent) (h : ∀ b ∈ indent, isBlank b = true) {count : Int}
    (hcount : count ≠ position) (number : Nat) (rest : List String) :
    findItem position (some indent) count number (i.lines ++ rest) =
      findItem position (some indent) (count + 1) (number + i.lines.length) rest := by
  unfold lines
  rw [List.cons_append, findItem_some_of_item (i.isItem_line h) i.isItemAt_line, if_neg hcount,
    findItem_append i.body_passed, List.length_cons, Nat.add_assoc, Nat.add_comm 1]

/-- The scan stops at the item with the position that is looked for. -/
theorem findItem_lines_eq (i : Item indent) (h : ∀ b ∈ indent, isBlank b = true) (number : Nat)
    (rest : List String) :
    findItem position (some indent) position number (i.lines ++ rest) = some number := by
  unfold lines
  rw [List.cons_append, findItem_some_of_item (i.isItem_line h) i.isItemAt_line, if_pos rfl]

/-- Between the items before one and those after it stand the lines of this one. -/
theorem flatMap_lines_eq {items : List (Item indent)} {n : Nat} (h : n < items.length) :
    items.flatMap lines = (items.take n).flatMap lines ++
      (items[n].lines ++ (items.drop (n + 1)).flatMap lines) := by
  rw [← List.flatMap_cons, List.cons_getElem_drop_succ, ← List.flatMap_append,
    List.take_append_drop]

end Item

/-! ## Lists -/

/-- A block list: a line that shows the field name, lines before the first item, and the items. -/
structure BlockList (key : String) (indent : List Char) where
  keyLine : String
  lead : List String
  items : List (Item indent)
  blank : ∀ b ∈ indent, isBlank b = true
  named : shows key keyLine = true
  keyLine_not_item : isItem keyLine.toList = false
  lead_not_item : ∀ l ∈ lead, isItem l.toList = false
  nonempty : items ≠ []

namespace BlockList

variable {key : String} {indent : List Char}

/-- The lines of a list. -/
def lines (b : BlockList key indent) : List String :=
  b.keyLine :: b.lead ++ b.items.flatMap Item.lines

/-- How many lines of the list stand before the item with a position. -/
def itemOffset (b : BlockList key indent) (n : Nat) : Nat :=
  (b.keyLine :: b.lead).length + ((b.items.take n).flatMap Item.lines).length

/-- The list whose items follow right below the line with the name. -/
def ofItems (keyLine : String) (items : List (Item indent)) (blank : ∀ b ∈ indent, isBlank b = true)
    (named : shows key keyLine = true) (not_item : isItem keyLine.toList = false)
    (nonempty : items ≠ []) : BlockList key indent where
  keyLine := keyLine
  lead := []
  items := items
  blank := blank
  named := named
  keyLine_not_item := not_item
  lead_not_item := List.forall_mem_nil _
  nonempty := nonempty

/-- Behind so many lines stands the item, and then the ones after it. -/
theorem drop_itemOffset (b : BlockList key indent) {n : Nat} (h : n < b.items.length) :
    b.lines.drop (b.itemOffset n) =
      b.items[n].lines ++ (b.items.drop (n + 1)).flatMap Item.lines := by
  unfold lines itemOffset
  rw [Item.flatMap_lines_eq h, ← List.append_assoc, ← List.length_append, List.drop_left]

theorem itemOffset_lt (b : BlockList key indent) {n : Nat} (h : n < b.items.length) :
    b.itemOffset n < b.lines.length := by
  rw [← Nat.not_le, ← List.drop_eq_nil_iff, b.drop_itemOffset h]
  exact List.cons_ne_nil _ _

/-- Once the indentation is set, the scan over items finds the one that is as far on as the
position is ahead of the count. -/
theorem findItem_items {items : List (Item indent)} (hblank : ∀ b ∈ indent, isBlank b = true)
    {n : Nat} (h : n < items.length) (count : Int) (number : Nat) (rest : List String) :
    findItem (count + n) (some indent) count number (items.flatMap Item.lines ++ rest) =
      some (number + ((items.take n).flatMap Item.lines).length) := by
  induction items generalizing n count number with
  | nil => cases h
  | cons i items ih =>
    rw [List.flatMap_cons, List.append_assoc]
    cases n with
    | zero =>
      rw [Int.natCast_zero, Int.add_zero, i.findItem_lines_eq hblank]
      rfl
    | succ n =>
      have hcount : count ≠ count + (n + 1 : Nat) := by omega
      have hahead : count + (n + 1 : Nat) = count + 1 + n := by omega
      rw [i.findItem_lines_ne hblank hcount, hahead, ih (Nat.lt_of_succ_lt_succ h),
        List.take_succ_cons, List.flatMap_cons, List.length_append, Nat.add_assoc]

/-- From the line with the name, the scan finds the item of the list with the position. -/
theorem findItem_lines (b : BlockList key indent) {n : Nat} (h : n < b.items.length)
    (number : Nat) (rest : List String) :
    findItem n none 0 number (b.lines ++ rest) = some (number + b.itemOffset n) := by
  have hbefore : ∀ l ∈ b.keyLine :: b.lead, isItem l.toList = false ∨
      ∃ at_, none = some at_ ∧ isItemAt at_ l.toList = false := by
    intro l hl
    rcases List.mem_cons.1 hl with rfl | hl
    · exact .inl b.keyLine_not_item
    · exact .inl (b.lead_not_item l hl)
  have hfirst : ∀ number, findItem n none 0 number (b.items.flatMap Item.lines ++ rest) =
      findItem n (some indent) 0 number (b.items.flatMap Item.lines ++ rest) := by
    intro number
    obtain ⟨i, items, hitems⟩ := List.exists_cons_of_ne_nil b.nonempty
    rw [hitems, List.flatMap_cons, Item.lines, List.cons_append, List.cons_append,
      findItem_none_of_item (i.isItem_line b.blank), i.indentation_line b.blank]
  have hitems := findItem_items b.blank h 0 (number + (b.keyLine :: b.lead).length) rest
  rw [Int.zero_add] at hitems
  unfold lines itemOffset
  rw [List.append_assoc, findItem_append hbefore, hfirst, hitems, Nat.add_assoc]

end BlockList

/-! ## Chains of lists -/

/-- The path names a chain of lists and items of them, each list in the body of the item before it:
the field names and the positions lead from the first of these lines to the last item, whose line
stands behind `k` of them. Each list is found by its name, so no line before it shows the name. -/
inductive Leads : List String → KeyPath → Nat → String → Prop
  | item {key : String} {indent : List Char} {before after : List String} {s : Segment} {n : Nat}
      (b : BlockList key indent) (first : ∀ l ∈ before, shows key l = false)
      (inside : n < b.items.length) (selects : s.Selects n) :
      Leads (before ++ (b.lines ++ after)) [⟨.key, key⟩, s]
        (before.length + b.itemOffset n) b.items[n].line
  | nested {key : String} {indent : List Char} {before after : List String} {s : Segment}
      {n k : Nat} {path : KeyPath} {line : String}
      (b : BlockList key indent) (first : ∀ l ∈ before, shows key l = false)
      (inside : n < b.items.length) (selects : s.Selects n)
      (rest : Leads b.items[n].lines path k line) :
      Leads (before ++ (b.lines ++ after)) (⟨.key, key⟩ :: s :: path)
        (before.length + b.itemOffset n + k) line

variable {d : Document} {key : String} {indent : List Char} {before after : List String}
  {s : Segment} {n k cursor : Nat} {path : KeyPath} {lines : List String} {line : String}

/-- Where the item of a list stands, the list among other lines. -/
theorem BlockList.drop_to_item (b : BlockList key indent) (h : n < b.items.length)
    (before after : List String) :
    (before ++ (b.lines ++ after)).drop (before.length + b.itemOffset n) =
      b.items[n].lines ++ ((b.items.drop (n + 1)).flatMap Item.lines ++ after) := by
  rw [← List.drop_drop, List.drop_left, List.drop_append_of_le_length (b.itemOffset_lt h).le,
    b.drop_itemOffset h, List.append_assoc]

/-- So many lines on stands the line of the item. -/
theorem Leads.drop_to_item (h : Leads lines path k line) :
    ∃ rest, lines.drop k = line :: rest := by
  induction h with
  | @item _ _ before after _ n b _ inside _ =>
    exact ⟨_, b.drop_to_item inside before after⟩
  | @nested _ _ before after _ _ _ _ _ b _ inside _ _ ih =>
    obtain ⟨rest, hrest⟩ := ih
    rw [← List.drop_drop, b.drop_to_item inside before after, List.drop_append, hrest]
    exact ⟨_, rfl⟩

/-- A name leads to its list, and from there a position to the item. -/
theorem foldlM_advance_item (b : BlockList key indent) (first : ∀ l ∈ before, shows key l = false)
    (inside : n < b.items.length) (selects : s.Selects n) (hcursor : 1 ≤ cursor)
    (hlines : d.linesFrom cursor = before ++ (b.lines ++ after)) (path : KeyPath) :
    (⟨.key, key⟩ :: s :: path).foldlM d.advance cursor =
      path.foldlM d.advance (cursor + (before.length + b.itemOffset n)) := by
  have hkeyLine : d.linesFrom cursor =
      before ++ b.keyLine :: (b.lead ++ b.items.flatMap Item.lines ++ after) := hlines
  have hkey := advance_key hkeyLine first b.named
  have hitem : d.advance (cursor + before.length) s =
      .ok (cursor + (before.length + b.itemOffset n)) := by
    refine advance_index selects ?_
    rw [linesFrom_of_append hcursor hlines, ← Nat.add_assoc]
    exact b.findItem_lines inside _ _
  rw [List.foldlM_cons, hkey, except_ok_bind, List.foldlM_cons, hitem, except_ok_bind]

/-- A chain that starts at the cursor leads the cursor to its last item. -/
theorem Leads.foldlM_advance (h : Leads lines path k line) (hcursor : 1 ≤ cursor)
    (hlines : d.linesFrom cursor = lines ++ after) (path' : KeyPath) :
    (path ++ path').foldlM d.advance cursor = path'.foldlM d.advance (cursor + k) := by
  induction h generalizing cursor after with
  | @item _ _ before after' _ n b first inside selects =>
    rw [List.append_assoc, List.append_assoc] at hlines
    exact foldlM_advance_item b first inside selects hcursor hlines path'
  | @nested _ _ before after' _ n k path _ b first inside selects _ ih =>
    rw [List.append_assoc, List.append_assoc] at hlines
    have hitem : d.linesFrom (cursor + (before.length + b.itemOffset n)) =
        b.items[n].lines ++ ((b.items.drop (n + 1)).flatMap Item.lines ++ (after' ++ after)) := by
      rw [linesFrom_add hcursor, hlines, b.drop_to_item inside]
    rw [List.cons_append, List.cons_append,
      foldlM_advance_item b first inside selects hcursor hlines,
      ih (Nat.le_add_right_of_le hcursor) hitem, Nat.add_assoc]

/-! ## Resolution -/

theorem Leads.two_le_length (h : Leads lines path k line) : 2 ≤ path.length := by
  cases h <;> simp

theorem Leads.lt_length (h : Leads lines path k line) : k < lines.length := by
  obtain ⟨rest, hrest⟩ := h.drop_to_item
  rw [← Nat.not_le, ← List.drop_eq_nil_iff, hrest]
  exact List.cons_ne_nil _ _

/-- In a document with a chain of nested lists, the path that names the lists and the positions has
the line of the chain's last item. With one more field name it has the first line from there on
that shows the name, and the line of the item itself if none does. -/
theorem resolve_leads (d : Document) (path : KeyPath) (k : Nat) (line : String)
    (h : Leads d.lines path k line) :
    d.lines[k]? = some line ∧
    d.resolve path = .ok (k + 1) ∧
    ∀ key : String,
      (∀ between shown after, d.lines.drop k = between ++ shown :: after →
        (∀ l ∈ between, shows key l = false) → shows key shown = true →
        d.resolve (path ++ [⟨.key, key⟩]) = .ok (k + between.length + 1)) ∧
      ((∀ l ∈ d.lines.drop k, shows key l = false) →
        d.resolve (path ++ [⟨.key, key⟩]) = .ok (k + 1)) := by
  have hlines : d.linesFrom 1 = d.lines ++ [] := (List.append_nil _).symm
  have hfollow : ∀ path', (path ++ path').foldlM d.advance 1 = path'.foldlM d.advance (k + 1) := by
    intro path'
    rw [h.foldlM_advance Nat.le.refl hlines, Nat.add_comm]
  -- The line is one of the document, so keeping it within the document changes nothing.
  have hresolve : ∀ path' line, path'.foldlM d.advance (k + 1) = .ok line → line ≤ d.lineCount →
      d.resolve (path ++ path') = .ok line := by
    intro path' line hline hbound
    have hlong : ¬ (path ++ path').length ≤ 1 := by
      have := h.two_le_length
      rw [List.length_append]
      omega
    unfold resolve follow
    rw [if_neg hlong, hfollow, hline, except_ok_bind,
      Nat.min_eq_left (hbound.trans (Nat.le_max_right _ _))]
    rfl
  refine ⟨?_, ?_, ?_⟩
  · obtain ⟨rest, hrest⟩ := h.drop_to_item
    rw [← List.head?_drop, hrest]
    rfl
  · have hpath := hresolve [] (k + 1) rfl h.lt_length
    rwa [List.append_nil] at hpath
  · intro key
    refine ⟨?_, ?_⟩
    · intro between line after hbetween hnot hline
      have hadvance : d.advance (k + 1) ⟨.key, key⟩ = .ok (k + 1 + between.length) :=
        advance_key hbetween hnot hline
      refine hresolve _ _ ?_ ?_
      · rw [List.foldlM_cons, hadvance, Nat.add_right_comm]
        rfl
      · have hlength := congrArg List.length hbetween
        rw [List.length_drop, List.length_append, List.length_cons] at hlength
        unfold lineCount
        omega
    · intro hnone
      refine hresolve _ _ ?_ h.lt_length
      have hadvance : d.advance (k + 1) ⟨.key, key⟩ = .ok (k + 1) := advance_key_none hnone
      rw [List.foldlM_cons, hadvance]
      rfl

/-- Lines that go on with a space go on behind the indentation. -/
theorem deeper_of_space {indent : List Char} {body : List String}
    (h : ∀ l ∈ body, isBlankText l = true ∨ indent ++ [' '] <+: l.toList) :
    ∀ l ∈ body, isBlankText l = true ∨ ∃ b, isBlank b = true ∧ indent ++ [b] <+: l.toList :=
  fun l hl => (h l hl).imp_right fun hspace => ⟨' ', rfl, hspace⟩

/-- A list of two ports, behind a comment. -/
def portList : BlockList "ports" "      ".toList where
  keyLine := "    ports:"
  lead := ["    # uplinks"]
  items := [⟨"      - id: 2", [], by decide, deeper_of_space (by decide)⟩,
    ⟨"      - id: 3", ["        note: x"], by decide, deeper_of_space (by decide)⟩]
  blank := List.all_eq_true.1 (by decide)
  named := by decide
  keyLine_not_item := by decide
  lead_not_item := by decide
  nonempty := by decide

/-- A list of two devices; the list of ports is in the body of the second. -/
def deviceList : BlockList "devices" "  ".toList where
  keyLine := "devices:"
  lead := []
  items := [⟨"  - name: a", ["    ports:", "      - id: 1"], by decide,
      deeper_of_space (by decide)⟩,
    ⟨"  - name: b", "" :: portList.lines, by decide, deeper_of_space (by decide)⟩]
  blank := List.all_eq_true.1 (by decide)
  named := by decide
  keyLine_not_item := by decide
  lead_not_item := by decide
  nonempty := by decide

theorem resolve_leads_ports :
    let d : Document := ⟨["---"] ++ (deviceList.lines ++ ["notes: 4"])⟩
    let path : KeyPath := [⟨.key, "devices"⟩, ⟨.index, "1"⟩, ⟨.key, "ports"⟩, ⟨.index, "1"⟩]
    Leads d.lines path 10 "      - id: 3" ∧ d.lines[10]? = some "      - id: 3" ∧
      d.resolve path = .ok 11 ∧ d.resolve (path ++ [⟨.key, "note"⟩]) = .ok 12 ∧
      d.resolve (path ++ [⟨.key, "speed"⟩]) = .ok 11 := by
  intro d path
  have hselects : Segment.Selects ⟨.index, "1"⟩ 1 := ⟨rfl, by decide, by decide, by decide⟩
  have hports : Leads deviceList.items[1].lines [⟨.key, "ports"⟩, ⟨.index, "1"⟩] 5
      "      - id: 3" :=
    @Leads.item _ _ ["  - name: b", ""] [] _ _ portList (by decide) (by decide) hselects
  have hleads : Leads d.lines path 10 "      - id: 3" :=
    @Leads.nested _ _ ["---"] _ _ _ _ _ _ deviceList (by decide) (by decide) hselects hports
  obtain ⟨hline, hpath, hmore⟩ := resolve_leads d path 10 _ hleads
  have hnote : d.resolve (path ++ [⟨.key, "note"⟩]) = .ok 12 :=
    (hmore "note").1 ["      - id: 3"] "        note: x" ["notes: 4"] (by decide) (by decide)
      (by decide)
  exact ⟨hleads, hline, hpath, hnote, (hmore "speed").2 (by decide)⟩

end VarsAdvisor.Document

import VarsAdvisor.Proofs.Document.Items
import VarsAdvisor.Proofs.Document.Positions

/-!
# Paths lead forward

A segment leads the cursor to a line that matches it, no further up than before, or leaves it where
it is (`Forward.advance`). So a whole path ends where it began or at a line of the document that
matches one of its segments (`forward_of_foldlM`), and keeping that line within the document changes
nothing (`follow_eq`). `resolve_forward` puts this together for paths, for longer ones and for the
lines of errors.
-/

namespace VarsAdvisor

open VarsAdvisor.Text

/-! ## Positions that can be read -/

/-- If the segment selects by position, its position can be read. -/
def Segment.Readable (s : Segment) : Prop :=
  s.kind = .index → ∃ n, s.position = .ok n

/-- Positions in ASCII digits can be read, unless the digits are too many. -/
theorem Segment.readable_of_digits {s : Segment}
    (h : s.kind = .index → isDigits s.value.toList = true ∧
      s.value.toList.length ≤ maxNumeralDigits) : s.Readable := by
  intro hkind
  obtain ⟨hdigits, hlength⟩ := h hkind
  exact ⟨_, Selects.position ⟨hkind, hdigits, hlength, rfl⟩⟩

theorem Segment.Selects.readable {s : Segment} {n : Nat} (h : s.Selects n) : s.Readable :=
  fun _ => ⟨n, h.position⟩

namespace ErrorLine

theorem isDigits_of_mem_path {raw : String} {s : Segment} (h : s ∈ (parse raw).path)
    (hkind : s.kind = .index) : Segment.isDigits s.value.toList = true := by
  unfold parse at h
  split at h
  · cases h
  · obtain ⟨cs, hvalue, hne, hdigits, -⟩ := digits_of_mem_segments h hkind
    rw [hvalue, String.toList_ofList]
    simpa [Segment.isDigits, hne] using hdigits

theorem target_of_missing {e : ErrorLine} (h : e.missing = true) (hlong : 2 ≤ e.path.length) :
    e.target = e.path.dropLast := by
  have : 1 < e.path.length := hlong
  simp [target, h, this]

theorem target_of_not_missing {e : ErrorLine} (h : e.missing = false) : e.target = e.path := by
  simp [target, h]

end ErrorLine

namespace Document

variable {d : Document} {s : Segment} {path p q : KeyPath} {cursor number r : Nat}

/-! ## One segment -/

/-- The line with this number matches a segment: it shows the field name, or it is the item that
the position selects in the list that is met first from some line on. -/
inductive Matches (d : Document) (number : Nat) : Segment → Prop
  | name {key line : String} (stands : d.lines[number - 1]? = some line)
      (named : shows key line = true) : Matches d number ⟨.key, key⟩
  | item {s : Segment} {line : String} {cursor n : Nat} (stands : d.lines[number - 1]? = some line)
      (item : isItem line.toList = true) (position : s.position = .ok (n : Int))
      (begins : 1 ≤ cursor)
      (selected : (listItems cursor (d.linesFrom cursor))[n]? = some number) : Matches d number s

theorem Matches.le_lineCount (h : d.Matches number s) : number ≤ d.lineCount := by
  have hlt : number - 1 < d.lineCount := by
    cases h with
    | name stands => exact (List.getElem?_eq_some_iff.1 stands).1
    | item stands => exact (List.getElem?_eq_some_iff.1 stands).1
  omega

theorem getElem?_linesFrom (hcursor : 1 ≤ cursor) (hle : cursor ≤ r) :
    (d.linesFrom cursor)[r - cursor]? = d.lines[r - 1]? := by
  have hplace : cursor - 1 + (r - cursor) = r - 1 := by omega
  unfold linesFrom
  rw [List.getElem?_drop, hplace]

/-- What a segment finds is a line that matches it, at the cursor or below. -/
theorem find?_some (hcursor : 1 ≤ cursor) (h : d.find? s cursor = .ok (some r)) :
    cursor ≤ r ∧ d.Matches r s := by
  obtain ⟨kind, value⟩ := s
  cases kind with
  | key =>
    have hfind : findKey value.toList cursor (d.linesFrom cursor) = some r := Except.ok.inj h
    rw [findKey_eq] at hfind
    obtain ⟨i, hi, rfl⟩ := Option.map_eq_some_iff.1 hfind
    obtain ⟨hlt, hshows, -⟩ := List.findIdx?_eq_some_iff_getElem.1 hi
    have hline : d.lines[cursor + i - 1]? = some (d.linesFrom cursor)[i] := by
      rw [← getElem?_linesFrom hcursor (Nat.le_add_right cursor i), Nat.add_sub_cancel_left,
        List.getElem?_eq_getElem hlt]
    exact ⟨Nat.le_add_right cursor i, .name hline hshows⟩
  | index =>
    obtain ⟨position, hposition, hfind⟩ := except_bind_ok.1 h
    obtain ⟨n, rfl, hget⟩ := findItem_eq_some_iff.1 (Except.ok.inj hfind)
    obtain ⟨hle, line, hline, hitem⟩ := mem_listItems (List.mem_of_getElem? hget)
    rw [getElem?_linesFrom hcursor hle] at hline
    exact ⟨hle, .item hline hitem hposition hcursor hget⟩

theorem exists_find? (h : s.Readable) (cursor : Nat) : ∃ found, d.find? s cursor = .ok found := by
  obtain ⟨kind, value⟩ := s
  cases kind with
  | key => exact ⟨_, rfl⟩
  | index =>
    obtain ⟨n, hn⟩ := h rfl
    exact ⟨_, except_bind_ok.2 ⟨n, hn, rfl⟩⟩

/-! ## Whole paths -/

/-- Where a path may lead from a cursor: no further up, and if elsewhere, to a line that matches one
of its segments. -/
structure Forward (d : Document) (path : KeyPath) (cursor r : Nat) : Prop where
  le : cursor ≤ r
  matched : r = cursor ∨ ∃ s ∈ path, d.Matches r s

namespace Forward

theorem refl (path : KeyPath) (cursor : Nat) : d.Forward path cursor cursor :=
  ⟨Nat.le_refl cursor, .inl rfl⟩

theorem advance (hcursor : 1 ≤ cursor) (h : d.advance cursor s = .ok r) :
    d.Forward [s] cursor r := by
  obtain ⟨found, hfound, hr⟩ := except_bind_ok.1 h
  cases hr
  cases found with
  | none => exact refl [s] cursor
  | some r =>
    obtain ⟨hle, hmatches⟩ := find?_some hcursor hfound
    exact ⟨hle, .inr ⟨s, List.mem_singleton_self s, hmatches⟩⟩

theorem append {middle : Nat} (hp : d.Forward p cursor middle) (hq : d.Forward q middle r) :
    d.Forward (p ++ q) cursor r := by
  refine ⟨hp.le.trans hq.le, ?_⟩
  rcases hq.matched with rfl | ⟨s, hs, hmatches⟩
  · rcases hp.matched with heq | ⟨s, hs, hmatches⟩
    · exact .inl heq
    · exact .inr ⟨s, List.mem_append_left q hs, hmatches⟩
  · exact .inr ⟨s, List.mem_append_right p hs, hmatches⟩

theorem le_max (h : d.Forward path 1 r) : r ≤ max 1 d.lineCount := by
  rcases h.matched with rfl | ⟨s, -, hmatches⟩
  · exact Nat.le_max_left _ _
  · exact hmatches.le_lineCount.trans (Nat.le_max_right _ _)

end Forward

theorem forward_of_foldlM (hcursor : 1 ≤ cursor) (h : path.foldlM d.advance cursor = .ok r) :
    d.Forward path cursor r := by
  induction path generalizing cursor with
  | nil =>
    cases h
    exact .refl [] r
  | cons s path ih =>
    rw [List.foldlM_cons] at h
    obtain ⟨middle, hstep, hrest⟩ := except_bind_ok.1 h
    have hfirst := Forward.advance hcursor hstep
    exact hfirst.append (ih (hcursor.trans hfirst.le) hrest)

theorem exists_foldlM (h : ∀ s ∈ path, s.Readable) (cursor : Nat) :
    ∃ r, path.foldlM d.advance cursor = .ok r := by
  induction path generalizing cursor with
  | nil => exact ⟨cursor, rfl⟩
  | cons s path ih =>
    rw [List.forall_mem_cons] at h
    obtain ⟨found, hfound⟩ := exists_find? h.1 cursor
    obtain ⟨r, hr⟩ := ih h.2 (found.getD cursor)
    refine ⟨r, ?_⟩
    rw [List.foldlM_cons]
    exact except_bind_ok.2 ⟨_, except_bind_ok.2 ⟨found, hfound, rfl⟩, hr⟩

/-- Keeping the cursor within the document never changes it. -/
theorem follow_eq (d : Document) (path : KeyPath) : d.follow path = path.foldlM d.advance 1 := by
  unfold follow
  cases h : path.foldlM d.advance 1 with
  | error e => rfl
  | ok r =>
    have hle := (forward_of_foldlM (Nat.le_refl 1) h).le_max
    rw [except_ok_bind, Nat.min_eq_left hle]
    rfl

theorem resolve_of_long (h : 2 ≤ path.length) : d.resolve path = path.foldlM d.advance 1 := by
  unfold resolve
  rw [if_neg (by omega), follow_eq]

theorem resolve_of_short (h : path.length ≤ 1) : d.resolve path = .ok 1 :=
  if_pos h

theorem resolve_cons (s : Segment) (h : path ≠ []) :
    d.resolve (s :: path) = (s :: path).foldlM d.advance 1 := by
  have hpos := List.length_pos_of_ne_nil h
  exact resolve_of_long (by rw [List.length_cons]; omega)

theorem exists_resolve (h : ∀ s ∈ path, s.Readable) :
    ∃ r, d.resolve path = .ok r ∧ d.Forward path 1 r := by
  by_cases hshort : path.length ≤ 1
  · exact ⟨1, resolve_of_short hshort, .refl path 1⟩
  · obtain ⟨r, hr⟩ := exists_foldlM (d := d) h 1
    exact ⟨r, by rw [resolve_of_long (by omega), hr], forward_of_foldlM (Nat.le_refl 1) hr⟩

/-- A longer path leads on from where the shorter one leads. -/
theorem foldlM_append_le (h : ∀ s ∈ p ++ q, s.Readable)
    (hp : p.foldlM d.advance 1 = .ok r) :
    ∃ far, (p ++ q).foldlM d.advance 1 = .ok far ∧ r ≤ far := by
  have hr : 1 ≤ r := (forward_of_foldlM (Nat.le_refl 1) hp).le
  have hq : ∀ s ∈ q, s.Readable := fun s hs => h s (List.mem_append_right p hs)
  obtain ⟨far, hfar⟩ := exists_foldlM (d := d) hq r
  refine ⟨far, ?_, (forward_of_foldlM hr hfar).le⟩
  rw [List.foldlM_append, hp, except_ok_bind, hfar]

/-! ## Errors -/

/-- The line of an error: within the document, where its target leads, not below the line of its
path if a field is missing, and that of its target, unless the field is missing at the top level. -/
structure Places (d : Document) (e : ErrorLine) (line : Nat) : Prop where
  resolves : d.resolveError e = .ok line
  pos : 1 ≤ line
  le : line ≤ max 1 d.lineCount
  followed : 2 ≤ e.path.length → d.follow e.target = .ok line
  not_below : e.missing = true → ∃ full, d.resolve e.path = .ok full ∧ line ≤ full
  target : ¬ (e.missing = true ∧ e.path.length = 2) → d.resolve e.target = .ok line

theorem exists_places {e : ErrorLine} (h : ∀ s ∈ e.path, s.Readable) :
    ∃ line, d.Places e line := by
  by_cases hshort : e.path.length ≤ 1
  · have htarget : e.target = e.path := by
      have : ¬ 1 < e.path.length := by omega
      simp [ErrorLine.target, this]
    refine ⟨1, ?_, Nat.le_refl 1, Nat.le_max_left _ _, ?_, ?_, ?_⟩
    · simp [resolveError, ErrorLine.isDocumentLevel, hshort]
    · intro hlong
      omega
    · intro _
      exact ⟨1, resolve_of_short hshort, Nat.le_refl 1⟩
    · intro _
      rw [htarget, resolve_of_short hshort]
  · have hlong : 2 ≤ e.path.length := by omega
    have hreadable : ∀ s ∈ e.target, s.Readable := fun s hs => h s (mem_path_of_mem_target hs)
    obtain ⟨line, hline⟩ := exists_foldlM (d := d) hreadable 1
    have hforward := forward_of_foldlM (Nat.le_refl 1) hline
    have hfollow : d.follow e.target = .ok line := by rw [follow_eq, hline]
    refine ⟨line, ?_, hforward.le, hforward.le_max, fun _ => hfollow, ?_, ?_⟩
    · have hlevel : ¬ e.isDocumentLevel = true := by simp [ErrorLine.isDocumentLevel, hshort]
      unfold resolveError
      rw [if_neg hlevel, hfollow]
    · -- The path of a missing field is its target and the field.
      intro hmissing
      have hne : e.path ≠ [] := List.ne_nil_of_length_pos (by omega)
      have hpath : e.target ++ [e.path.getLast hne] = e.path := by
        rw [ErrorLine.target_of_missing hmissing hlong, List.dropLast_append_getLast hne]
      have happend := foldlM_append_le (q := [e.path.getLast hne]) (by rwa [hpath]) hline
      rwa [hpath, ← resolve_of_long hlong] at happend
    · intro hexcept
      have hlongTarget : 2 ≤ e.target.length := by
        cases hmissing : e.missing with
        | false => rwa [ErrorLine.target_of_not_missing hmissing]
        | true =>
          have : e.path.length ≠ 2 := fun h => hexcept ⟨hmissing, h⟩
          rw [ErrorLine.target_of_missing hmissing hlong, List.length_dropLast]
          omega
      rw [resolve_of_long hlongTarget, hline]

theorem readable_of_raw {raw : String} (h : ∀ s ∈ (ErrorLine.parse raw).path, s.kind = .index →
    s.value.toList.length ≤ maxNumeralDigits) : ∀ s ∈ (ErrorLine.parse raw).path, s.Readable := by
  intro s hs
  apply Segment.readable_of_digits
  intro hkind
  exact ⟨ErrorLine.isDigits_of_mem_path hs hkind, h s hs hkind⟩

/-- Resolution only goes forward and stays within the document. The line of a path whose positions
can be read is at or above that of each longer one, and beyond the first line it matches a segment
of the path. Each error whose positions have not too many digits gets a line of its own, whatever
the other errors are. -/
theorem resolve_forward (d : Document) :
    (∀ p q : KeyPath, (∀ s ∈ p ++ q, s.Readable) →
      ∃ near far, d.resolve p = .ok near ∧ d.resolve (p ++ q) = .ok far ∧
        1 ≤ near ∧ near ≤ far ∧ far ≤ max 1 d.lineCount ∧
        (1 < near → ∃ s ∈ p, d.Matches near s)) ∧
    (∀ p : KeyPath, d.follow p = p.foldlM d.advance 1) ∧
    ∀ raws : List String,
      (∀ raw ∈ raws, ∀ s ∈ (ErrorLine.parse raw).path, s.kind = .index →
        s.value.toList.length ≤ maxNumeralDigits) →
      ∃ lines, d.resolveErrors raws = .ok lines ∧ lines.length = raws.length ∧
        ∀ (i : Nat) (raw : String), raws[i]? = some raw →
          ∃ line, lines[i]? = some line ∧ d.Places (ErrorLine.parse raw) line := by
  refine ⟨?_, d.follow_eq, ?_⟩
  · intro p q h
    obtain ⟨near, hnear, hp⟩ := exists_resolve (d := d) fun s hs => h s (List.mem_append_left q hs)
    obtain ⟨far, hfar, hpq⟩ := exists_resolve (d := d) h
    refine ⟨near, far, hnear, hfar, hp.le, ?_, hpq.le_max, ?_⟩
    · by_cases hshort : p.length ≤ 1
      · rw [resolve_of_short hshort] at hnear
        cases hnear
        exact hpq.le
      · rw [resolve_of_long (by omega)] at hnear
        obtain ⟨far', hfar', hle⟩ := foldlM_append_le h hnear
        rw [resolve_of_long (by rw [List.length_append]; omega), hfar'] at hfar
        cases hfar
        exact hle
    · intro hbeyond
      rcases hp.matched with rfl | hmatched
      · exact absurd hbeyond (Nat.lt_irrefl 1)
      · exact hmatched
  · intro raws h
    have hplaces : ∀ raw ∈ raws, ∃ line, d.Places (ErrorLine.parse raw) line :=
      fun raw hraw => exists_places (readable_of_raw (h raw hraw))
    cases hlines : d.resolveErrors raws with
    | error e =>
      obtain ⟨raw, hraw, herror⟩ := except_mapM_error hlines
      obtain ⟨line, hline⟩ := hplaces raw hraw
      rw [hline.resolves] at herror
      cases herror
    | ok lines =>
      obtain ⟨hlength, hget⟩ := except_mapM_ok_getElem? hlines
      refine ⟨lines, rfl, hlength, ?_⟩
      intro i raw hraw
      obtain ⟨line, hline⟩ := hplaces raw (List.mem_of_getElem? hraw)
      obtain ⟨line', hresolves, hline'⟩ := hget i raw hraw
      rw [hline.resolves] at hresolves
      cases hresolves
      exact ⟨line, hline', hline⟩

theorem resolve_forward_device :
    let d : Document := ⟨["devices:", "  - name: a", "    type: x"]⟩
    let p : KeyPath := [⟨.key, "devices"⟩, ⟨.index, "0"⟩]
    let q : KeyPath := [⟨.key, "type"⟩]
    let raw := "devices.0.size: Required field missing"
    (∀ s ∈ p ++ q, s.Readable) ∧ d.resolve p = .ok 2 ∧ d.resolve (p ++ q) = .ok 3 ∧
      (∃ s ∈ p, d.Matches 2 s) ∧
      (∀ s ∈ (ErrorLine.parse raw).path, s.kind = .index →
        s.value.toList.length ≤ maxNumeralDigits) ∧
      d.resolveErrors [raw] = .ok [2] ∧ d.Places (ErrorLine.parse raw) 2 := by
  intro d p q raw
  obtain ⟨hpaths, -, herrors⟩ := resolve_forward d
  have hreadable : ∀ s ∈ p ++ q, s.Readable := by
    have hposition : (⟨.index, "0"⟩ : Segment).Selects 0 := ⟨rfl, by decide, by decide, by decide⟩
    have hnames : ∀ name, (⟨.key, name⟩ : Segment).Readable := fun _ hkind => nomatch hkind
    simpa [p, q] using ⟨hnames "devices", hposition.readable, hnames "type"⟩
  have hshort : ∀ s ∈ (ErrorLine.parse raw).path, s.kind = .index →
      s.value.toList.length ≤ maxNumeralDigits := by decide
  have hp : d.resolve p = .ok 2 := by decide
  have hq : d.resolve (p ++ q) = .ok 3 := by decide
  have hraw : d.resolveErrors [raw] = .ok [2] := by decide
  obtain ⟨near, -, hnear, -, -, -, -, hmatches⟩ := hpaths p q hreadable
  obtain ⟨lines, hlines, -, hplaces⟩ := herrors [raw] (by simpa using hshort)
  obtain ⟨line, hline, hplace⟩ := hplaces 0 raw rfl
  rw [hp] at hnear
  cases hnear
  rw [hraw] at hlines
  cases hlines
  cases hline
  exact ⟨hreadable, hp, hq, hmatches (by decide), hshort, hraw, hplace⟩

end Document

end VarsAdvisor

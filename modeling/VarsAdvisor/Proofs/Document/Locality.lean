import VarsAdvisor.Proofs.Document.Forward

/-!
# What a path depends on

A scan reads the lines from the cursor to the line that it finds. Lines in front of a document only
shift what is found behind them (`find?_behind`, `foldlM_behind`), and lines after it take nothing
away from what is found (`Found.append`). So a path that starts with a field name leads to the same
place among other lines, if no line in front shows the name (`resolve_surrounded`).
-/

namespace VarsAdvisor.Document

open VarsAdvisor.Text

variable {d : Document} {s : Segment} {path rest : KeyPath} {key : String} {cursor r : Nat}
  {before after : List String}

/-! ## Lines in front -/

theorem linesFrom_behind (hcursor : 1 ≤ cursor) (before : List String) :
    (⟨before ++ d.lines⟩ : Document).linesFrom (cursor + before.length) = d.linesFrom cursor := by
  have hplace : cursor + before.length - 1 = before.length + (cursor - 1) := by omega
  unfold linesFrom
  rw [hplace, ← List.drop_drop, List.drop_left]

theorem find?_behind (hcursor : 1 ≤ cursor) (before : List String) :
    (⟨before ++ d.lines⟩ : Document).find? s (cursor + before.length) =
      (d.find? s cursor).map (Option.map (· + before.length)) := by
  obtain ⟨kind, value⟩ := s
  unfold find?
  rw [linesFrom_behind hcursor]
  cases kind with
  | key => exact congrArg Except.ok (findKey_add value cursor before.length _)
  | index =>
    cases hposition : (⟨.index, value⟩ : Segment).position with
    | error e => rfl
    | ok position => exact congrArg Except.ok (findItem_add position cursor before.length _)

/-- From the top, a field name that no line in front shows is found where it was. -/
theorem find?_name_behind (h : ∀ l ∈ before, shows key l = false) :
    (⟨before ++ d.lines⟩ : Document).find? ⟨.key, key⟩ 1 =
      (d.find? ⟨.key, key⟩ 1).map (Option.map (· + before.length)) := by
  have hpass := findKey_append h 1 d.lines
  rw [findKey_add] at hpass
  exact congrArg Except.ok hpass

theorem advance_behind (hcursor : 1 ≤ cursor) (before : List String) (s : Segment) :
    (⟨before ++ d.lines⟩ : Document).advance (cursor + before.length) s =
      (d.advance cursor s).map (· + before.length) := by
  unfold advance
  rw [find?_behind hcursor]
  cases d.find? s cursor with
  | error e => rfl
  | ok found => cases found <;> rfl

/-- Behind other lines, a path leads from each cursor as far as before. -/
theorem foldlM_behind (hcursor : 1 ≤ cursor) (before : List String) (path : KeyPath) :
    path.foldlM (⟨before ++ d.lines⟩ : Document).advance (cursor + before.length) =
      (path.foldlM d.advance cursor).map (· + before.length) := by
  induction path generalizing cursor with
  | nil => rfl
  | cons s path ih =>
    rw [List.foldlM_cons, List.foldlM_cons, advance_behind hcursor]
    cases hstep : d.advance cursor s with
    | error e => rfl
    | ok middle => exact ih (hcursor.trans (Forward.advance hcursor hstep).le)

theorem exists_findKey (h : ∃ l ∈ d.lines, shows key l = true) :
    ∃ r, findKey key.toList 1 d.lines = some r := by
  have hfound : (d.lines.findIdx? (shows key)).isSome = true := by
    rw [List.findIdx?_isSome]
    exact List.any_eq_true.2 h
  obtain ⟨i, hi⟩ := Option.isSome_iff_exists.1 hfound
  exact ⟨1 + i, by rw [findKey_eq, hi, Option.map_some]⟩

/-- A path that starts with a field name that the document shows, and no line in front of it. -/
theorem resolve_behind (hrest : rest ≠ []) (hbefore : ∀ l ∈ before, shows key l = false)
    (hshown : ∃ l ∈ d.lines, shows key l = true) :
    (⟨before ++ d.lines⟩ : Document).resolve (⟨.key, key⟩ :: rest) =
      (d.resolve (⟨.key, key⟩ :: rest)).map (· + before.length) := by
  obtain ⟨r, hr⟩ := exists_findKey hshown
  have hfind : d.find? ⟨.key, key⟩ 1 = .ok (some r) := congrArg Except.ok hr
  have hfirst : d.advance 1 ⟨.key, key⟩ = .ok r := by
    unfold advance
    rw [hfind]
    rfl
  have hfirst' : (⟨before ++ d.lines⟩ : Document).advance 1 ⟨.key, key⟩ =
      .ok (r + before.length) := by
    unfold advance
    rw [find?_name_behind hbefore, hfind]
    rfl
  rw [resolve_cons _ hrest, resolve_cons _ hrest, List.foldlM_cons, List.foldlM_cons, hfirst,
    hfirst', except_ok_bind, except_ok_bind,
    foldlM_behind (find?_some (Nat.le_refl 1) hfind).1]

/-! ## Lines after -/

/-- Each segment of the path is found, the first one from the cursor on and each other one from
where the one before it was found; the last is found in line `r`. -/
inductive Found (d : Document) : Nat → KeyPath → Nat → Prop
  | nil (cursor : Nat) : Found d cursor [] cursor
  | cons {cursor middle r : Nat} {s : Segment} {path : KeyPath}
      (first : d.find? s cursor = .ok (some middle)) (rest : Found d middle path r) :
      Found d cursor (s :: path) r

theorem find?_append (h : d.find? s cursor = .ok (some r)) (after : List String) :
    (⟨d.lines ++ after⟩ : Document).find? s cursor = .ok (some r) := by
  have hlines : (⟨d.lines ++ after⟩ : Document).linesFrom cursor =
      d.linesFrom cursor ++ after.drop (cursor - 1 - d.lines.length) := List.drop_append
  obtain ⟨kind, value⟩ := s
  unfold find? at h ⊢
  rw [hlines]
  cases kind with
  | key => exact congrArg Except.ok (findKey_append_of_some (Except.ok.inj h) _)
  | index =>
    obtain ⟨position, hposition, hfind⟩ := except_bind_ok.1 h
    exact except_bind_ok.2 ⟨position, hposition,
      congrArg Except.ok (findItem_append_of_some (Except.ok.inj hfind) _)⟩

namespace Found

theorem foldlM (h : d.Found cursor path r) : path.foldlM d.advance cursor = .ok r := by
  induction h with
  | nil => rfl
  | cons first _ ih =>
    rw [List.foldlM_cons]
    exact except_bind_ok.2 ⟨_, except_bind_ok.2 ⟨_, first, rfl⟩, ih⟩

theorem append (h : d.Found cursor path r) (after : List String) :
    (⟨d.lines ++ after⟩ : Document).Found cursor path r := by
  induction h with
  | nil cursor => exact .nil cursor
  | cons first _ ih => exact .cons (find?_append first after) ih

theorem behind (h : d.Found cursor path r) (hcursor : 1 ≤ cursor) (before : List String) :
    (⟨before ++ d.lines⟩ : Document).Found (cursor + before.length) path (r + before.length) := by
  induction h with
  | nil cursor => exact .nil _
  | cons first _ ih =>
    refine .cons ?_ (ih (hcursor.trans (find?_some hcursor first).1))
    rw [find?_behind hcursor, first]
    rfl

/-- A path that starts with a field name is found among other lines. -/
theorem surrounded (h : d.Found 1 (⟨.key, key⟩ :: rest) r)
    (hbefore : ∀ l ∈ before, shows key l = false) (after : List String) :
    (⟨before ++ d.lines ++ after⟩ : Document).Found 1 (⟨.key, key⟩ :: rest)
      (r + before.length) := by
  have hbehind : (⟨before ++ d.lines⟩ : Document).Found 1 (⟨.key, key⟩ :: rest)
      (r + before.length) := by
    cases h with
    | cons first hrest =>
      refine .cons ?_ (hrest.behind (find?_some (Nat.le_refl 1) first).1 before)
      rw [find?_name_behind hbefore, first]
      rfl
  exact hbehind.append after

end Found

/-- Where a path of two or more segments leads that starts with a field name, no line in front of
the document shows this name. If each segment is found in the document, the path leads to the same
place among the other lines. If only the name is known to be found, it does so behind the lines in
front. -/
theorem resolve_surrounded (d : Document) (key : String) (rest : KeyPath)
    (before after : List String) (hrest : rest ≠ [])
    (hbefore : ∀ l ∈ before, shows key l = false) :
    (∀ line, d.Found 1 (⟨.key, key⟩ :: rest) line →
      d.resolve (⟨.key, key⟩ :: rest) = .ok line ∧
      (⟨before ++ d.lines ++ after⟩ : Document).resolve (⟨.key, key⟩ :: rest) =
        .ok (before.length + line)) ∧
    ((∃ l ∈ d.lines, shows key l = true) → (∀ s ∈ rest, s.Readable) →
      ∃ line, d.resolve (⟨.key, key⟩ :: rest) = .ok line ∧
        (⟨before ++ d.lines⟩ : Document).resolve (⟨.key, key⟩ :: rest) =
          .ok (before.length + line)) := by
  constructor
  · intro line hfound
    rw [resolve_cons _ hrest, resolve_cons _ hrest, hfound.foldlM,
      (hfound.surrounded hbefore after).foldlM, Nat.add_comm]
    exact ⟨rfl, rfl⟩
  · intro hshown hreadable
    have hall : ∀ s ∈ (⟨.key, key⟩ : Segment) :: rest, s.Readable :=
      List.forall_mem_cons.2 ⟨fun hkind => (nomatch hkind), hreadable⟩
    obtain ⟨line, hline, -⟩ := exists_resolve (d := d) hall
    refine ⟨line, hline, ?_⟩
    rw [resolve_behind hrest hbefore hshown, hline, Nat.add_comm]
    rfl

theorem resolve_surrounded_device :
    let d : Document := ⟨["devices:", "  - name: a", "    type: x"]⟩
    let before := ["---", "# types:"]
    let after := ["  - name: b", "devices: []"]
    let rest : KeyPath := [⟨.index, "0"⟩, ⟨.key, "type"⟩]
    (∀ l ∈ before, shows "devices" l = false) ∧ d.Found 1 (⟨.key, "devices"⟩ :: rest) 3 ∧
      (⟨before ++ d.lines ++ after⟩ : Document).resolve (⟨.key, "devices"⟩ :: rest) = .ok 5 ∧
      d.resolve [⟨.key, "devices"⟩, ⟨.key, "size"⟩] = .ok 1 ∧
      (⟨before ++ d.lines⟩ : Document).resolve [⟨.key, "devices"⟩, ⟨.key, "size"⟩] = .ok 3 := by
  intro d before after rest
  have hbefore : ∀ l ∈ before, shows "devices" l = false := by decide
  have hfound : d.Found 1 (⟨.key, "devices"⟩ :: rest) 3 :=
    .cons (show d.find? ⟨.key, "devices"⟩ 1 = .ok (some 1) by decide)
      (.cons (show d.find? ⟨.index, "0"⟩ 1 = .ok (some 2) by decide)
        (.cons (show d.find? ⟨.key, "type"⟩ 2 = .ok (some 3) by decide) (.nil 3)))
  have hrest : rest ≠ [] := by decide
  have hsize : ([⟨.key, "size"⟩] : KeyPath) ≠ [] := by decide
  have hshown : ∃ l ∈ d.lines, shows "devices" l = true := ⟨"devices:", by decide, by decide⟩
  have hall := (resolve_surrounded d "devices" rest before after hrest hbefore).1 3 hfound
  obtain ⟨line, hline, hbehind⟩ := (resolve_surrounded d "devices" _ before [] hsize hbefore).2
    hshown (List.forall_mem_singleton.2 fun hkind => nomatch hkind)
  have htop : d.resolve [⟨.key, "devices"⟩, ⟨.key, "size"⟩] = .ok 1 := by decide
  rw [htop] at hline
  cases hline
  exact ⟨hbefore, hfound, hall.2, htop, hbehind⟩

end VarsAdvisor.Document

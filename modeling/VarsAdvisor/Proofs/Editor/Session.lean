import VarsAdvisor.Proofs.Editor.Balance

/-!
# Overlays and surfaces over time

A session is an editor with the markers that were made on its surfaces directly. Whatever is done to
surfaces, overlays and such markers, in whatever order, each surface shows the markers of the
overlays on it and those that were made directly and not disposed of, each of them once
(`markers_have_owners`).
-/

namespace VarsAdvisor

/-- A marker that was made on a surface directly, and whether it was disposed of. -/
structure Pin where
  handle : Handle
  marker : Marker
  disposed : Bool
  deriving DecidableEq, Repr

/-- Something that is done to surfaces, overlays and markers. On the broken lines of a surface the
handles of new markers fail; which lines these are may change at any time. -/
inductive Session.Action where
  | addSurface (lines : List String)
  | breakLines (surface : SurfaceId) (lines : List Int)
  | addOverlay (surface : SurfaceId)
  | annotate (overlay : OverlayId) (a : Annotation)
  | clear (overlay : OverlayId)
  | pin (surface : SurfaceId) (m : Marker)
  | dispose (pin : Nat)
  deriving Repr

/-- An editor, and the markers that were made on its surfaces directly. -/
structure Session where
  editor : Editor
  pins : List Pin
  deriving Repr

namespace Session

/-- Nothing is in use. -/
def begin : Session := ⟨.empty, []⟩

/-- Makes a marker on a surface. -/
def pin (s : Session) (id : SurfaceId) (m : Marker) : Session :=
  let (e, h) := s.editor.createMarker id m
  ⟨e, s.pins ++ [⟨h, m, false⟩]⟩

/-- Disposes of a marker that was made directly. -/
def unpin (s : Session) (p : Pin) : Session :=
  ⟨s.editor.release p.handle,
    s.pins.map fun q => if q.handle = p.handle then { q with disposed := true } else q⟩

/-- What an action does. One on something that is not in use does nothing. -/
def act (s : Session) : Action → Session
  | .addSurface lines => { s with editor := (s.editor.addSurface (.ofLines lines)).1 }
  | .breakLines id lines =>
    { s with
      editor := s.editor.setSurface id { s.editor.surface id with brokenLines := lines } }
  | .addOverlay id =>
    if id < s.editor.surfaces.length then { s with editor := (s.editor.addOverlay id).1 } else s
  | .annotate id a =>
    if id < s.editor.overlays.length then { s with editor := (s.editor.annotate id a).1 } else s
  | .clear id =>
    if id < s.editor.overlays.length then { s with editor := s.editor.clear id } else s
  | .pin id m => if id < s.editor.surfaces.length then s.pin id m else s
  | .dispose n => match s.pins[n]? with
    | some p => s.unpin p
    | none => s

/-- What actions do, one after the other. -/
def run (s : Session) (actions : List Action) : Session :=
  actions.foldl act s

/-- The markers on a surface that were made directly and not disposed of. -/
def pinned (s : Session) (j : SurfaceId) : Table Nat Marker :=
  s.pins.filterMap fun p =>
    if p.handle.reaches j p.handle.number && !p.disposed then some (p.handle.number, p.marker)
    else none

/-! ## What an action keeps -/

/-- The loose markers of the editor are those that were made directly. -/
structure WF (s : Session) : Prop where
  balanced : s.editor.Balanced s.pinned
  issued : ∀ p ∈ s.pins, p.handle.number < s.editor.nextMarker
  loose : ∀ p ∈ s.pins, ∀ id, ∀ h ∈ (s.editor.overlay id).held, h.number ≠ p.handle.number

theorem pinned_pin (s : Session) (id : SurfaceId) (m : Marker) (j : SurfaceId) :
    (s.pin id m).pinned j = s.pinned j ++
      if (s.editor.createMarker id m).2.reaches j s.editor.nextMarker then
        [(s.editor.nextMarker, m)]
      else [] := by
  unfold pinned pin
  rw [List.filterMap_append]
  congr 1
  simp only [List.filterMap_cons, List.filterMap_nil, Bool.not_false, Bool.and_true]
  split <;> simp_all [Editor.createMarker]

theorem pinned_unpin (s : Session) (p : Pin) (j : SurfaceId) :
    (s.unpin p).pinned j = (s.pinned j).filter fun q => !p.handle.reaches j q.1 := by
  unfold pinned unpin
  rw [List.filterMap_map, List.filter_filterMap]
  apply List.filterMap_congr
  intro q _
  by_cases hsame : q.handle = p.handle
  · cases hreaches : p.handle.reaches j p.handle.number <;> cases q.disposed <;>
      simp [hsame, hreaches, Option.filter_some]
  · cases hreaches : q.handle.reaches j q.handle.number
    · simp [hsame, hreaches]
    · have hother : p.handle.reaches j q.handle.number = false := by
        rw [Bool.eq_false_iff]
        exact fun hp => hsame (Handle.eq_of_reaches hreaches hp)
      cases hd : q.disposed <;> simp [hsame, hreaches, hother, hd, Option.filter_some]

theorem WF.begin : Session.begin.WF := by
  refine ⟨.empty, ?_, ?_⟩
  · intro p hp
    cases hp
  · intro p hp
    cases hp

/-- A change of the editor that leaves the loose markers and adds to the handles held at most ones
with new numbers. -/
theorem WF.setEditor {s : Session} (hs : s.WF) {e : Editor} (he : e.Balanced s.pinned)
    (hnext : s.editor.nextMarker ≤ e.nextMarker)
    (hheld : ∀ id, ∀ h ∈ (e.overlay id).held,
      h ∈ (s.editor.overlay id).held ∨ h.number = s.editor.nextMarker) :
    { s with editor := e }.WF := by
  refine ⟨he, ?_, ?_⟩
  · intro p hp
    exact Nat.lt_of_lt_of_le (hs.issued p hp) hnext
  · intro p hp id h hmem
    rcases hheld id h hmem with hold | hnew
    · exact hs.loose p hp id h hold
    · rw [hnew]
      exact Nat.ne_of_gt (hs.issued p hp)

theorem WF.annotate {s : Session} (hs : s.WF) {id : OverlayId} (hid : id < s.editor.overlays.length)
    (a : Annotation) : { s with editor := (s.editor.annotate id a).1 }.WF := by
  refine hs.setEditor (hs.balanced.annotate hid a) (Editor.nextMarker_annotate _ id a) ?_
  intro j h hmem
  rcases Editor.held_annotate hs.balanced.tidy.wf id a j with hsame | ⟨m, -, -, hnew⟩
  · exact .inl (hsame ▸ hmem)
  · rw [hnew, List.mem_append, List.mem_singleton] at hmem
    rcases hmem with hold | rfl
    · exact .inl hold
    · exact .inr rfl

theorem WF.clear {s : Session} (hs : s.WF) {id : OverlayId} (hid : id < s.editor.overlays.length) :
    { s with editor := s.editor.clear id }.WF := by
  refine hs.setEditor (hs.balanced.clear hid) (Nat.le_of_eq (Editor.nextMarker_clear _ id).symm) ?_
  intro j h hmem
  by_cases hj : j = id
  · subst hj
    rw [Editor.overlay_clear] at hmem
    cases hmem
  · rw [Editor.overlay_clear_ne hj] at hmem
    exact .inl hmem

theorem WF.pin {s : Session} (hs : s.WF) {id : SurfaceId} (hid : id < s.editor.surfaces.length)
    (m : Marker) : (s.pin id m).WF := by
  have hbalanced := hs.balanced.createMarker hid m
  have hpinned : (s.pin id m).pinned = fun j => s.pinned j ++
      if (s.editor.createMarker id m).2.reaches j s.editor.nextMarker then
        [(s.editor.nextMarker, m)]
      else [] := funext (s.pinned_pin id m)
  rw [← hpinned] at hbalanced
  have hcases : ∀ p ∈ (s.pin id m).pins, p ∈ s.pins ∨ p.handle.number = s.editor.nextMarker := by
    intro p hp
    rcases List.mem_append.1 hp with hold | hnew
    · exact .inl hold
    · obtain rfl := List.mem_singleton.1 hnew
      exact .inr rfl
  refine ⟨hbalanced, ?_, ?_⟩
  · intro p hp
    rcases hcases p hp with hold | hnew
    · exact Nat.lt_succ_of_lt (hs.issued p hold)
    · rw [hnew]
      exact Nat.lt_succ_self _
  · intro p hp j h hmem
    rcases hcases p hp with hold | hnew
    · exact hs.loose p hold j h hmem
    · rw [hnew]
      exact Nat.ne_of_lt (hs.balanced.tidy.issued hmem)

theorem WF.unpin {s : Session} (hs : s.WF) {p : Pin} (hp : p ∈ s.pins) : (s.unpin p).WF := by
  have hbalanced := hs.balanced.release (hs.loose p hp)
  rw [← funext (s.pinned_unpin p)] at hbalanced
  have hcases : ∀ q ∈ (s.unpin p).pins, ∃ r ∈ s.pins, r.handle = q.handle := by
    intro q hq
    obtain ⟨r, hr, rfl⟩ := List.mem_map.1 hq
    refine ⟨r, hr, ?_⟩
    split <;> rfl
  refine ⟨hbalanced, ?_, ?_⟩
  · intro q hq
    obtain ⟨r, hr, hhandle⟩ := hcases q hq
    rw [← hhandle]
    unfold Session.unpin
    rw [Editor.nextMarker_release]
    exact hs.issued r hr
  · intro q hq j h hmem
    obtain ⟨r, hr, hhandle⟩ := hcases q hq
    unfold Session.unpin at hmem
    rw [Editor.overlay_release] at hmem
    rw [← hhandle]
    exact hs.loose r hr j h hmem

/-- What one action keeps. -/
theorem WF.act {s : Session} (hs : s.WF) (action : Action) : (s.act action).WF := by
  cases action with
  | addSurface lines =>
    exact hs.setEditor (hs.balanced.addSurface lines []) (Nat.le_refl _) fun _ _ hmem => .inl hmem
  | breakLines id lines =>
    exact hs.setEditor (hs.balanced.setBrokenLines id lines) (Nat.le_refl _)
      fun _ _ hmem => .inl hmem
  | addOverlay id =>
    simp only [Session.act]
    split
    · refine hs.setEditor (hs.balanced.addOverlay id) (Nat.le_refl _) ?_
      intro j h hmem
      rw [Editor.overlay_addOverlay] at hmem
      split at hmem
      · cases hmem
      · exact .inl hmem
    · exact hs
  | annotate id a =>
    simp only [Session.act]
    split
    · next hid => exact hs.annotate hid a
    · exact hs
  | clear id =>
    simp only [Session.act]
    split
    · next hid => exact hs.clear hid
    · exact hs
  | pin id m =>
    simp only [Session.act]
    split
    · next hid => exact hs.pin hid m
    · exact hs
  | dispose n =>
    simp only [Session.act]
    split
    · next p hp => exact hs.unpin (List.mem_of_getElem? hp)
    · exact hs

/-- What actions keep, one after the other. -/
theorem WF.run {s : Session} (hs : s.WF) (actions : List Action) : (s.run actions).WF := by
  induction actions generalizing s with
  | nil => exact hs
  | cons action rest ih => exact ih (hs.act action)

/-! ## Who owns the markers -/

/-- The markers on a surface that were made directly and not disposed of, and those of overlays. -/
def owned (s : Session) (j : SurfaceId) : List Marker :=
  (s.pinned j ++ s.editor.notesOn j).map (·.2)

/-- **Every marker has its owner.** Whatever was done, an overlay has handles for the very lines
that it annotates, all of them lines of its surface, and a surface shows, each once, the markers
that were made directly and not disposed of, and those of the annotations whose handles it knows.
Clearing an overlay removes the markers of that overlay alone, and an annotation is taken exactly
where its line exists and has none. -/
theorem markers_have_owners (actions : List Action) :
    let s := Session.begin.run actions
    let e := s.editor
    (∀ id, (e.overlay id).handles.keys = (e.overlay id).annotations.keys ∧
      (e.overlay id).annotations.keys.Nodup ∧
      ∀ l a, (e.overlay id).annotations.get? l = some a →
        a.line = l ∧ 1 ≤ l ∧ l ≤ (e.surfaceOf id).lineCount) ∧
    (∀ j, ((e.surface j).markers.map (·.2)).Perm (s.owned j)) ∧
    (∀ id, id < e.overlays.length →
      ((e.clear id).overlay id).IsBlank ∧
      (∀ other, other ≠ id → (e.clear id).overlay other = e.overlay other) ∧
      ∀ j, ((e.surface j).markers.map (·.2)).Perm
        (((e.overlay id).notesAt j (e.surface j)).map (·.2) ++
          ((e.clear id).surface j).markers.map (·.2))) ∧
    (∀ id a, id < e.overlays.length →
      let taken := (e.annotate id a).2
      (taken = true ↔ a.line ∉ (e.overlay id).annotations.keys ∧
        1 ≤ a.line ∧ a.line ≤ (e.surfaceOf id).lineCount) ∧
      (taken = true → ((e.annotate id a).1.overlay id).annotations =
        (e.overlay id).annotations ++ [(a.line, a)]) ∧
      (taken = false → (e.annotate id a).1 = e)) := by
  intro s e
  have hs : s.WF := WF.begin.run actions
  have hbalanced : e.Balanced s.pinned := hs.balanced
  have hrange : ∀ id l, (e.surfaceOf id).hasLine l = true ↔
      1 ≤ l ∧ l ≤ (e.surfaceOf id).lineCount := by
    intro id l
    simp only [Surface.hasLine, Bool.and_eq_true, decide_eq_true_eq]
  refine ⟨?_, ?_, ?_, ?_⟩
  · intro id
    have hwf := hbalanced.tidy.wf id
    refine ⟨hwf.handles, hwf.nodup, ?_⟩
    intro l a ha
    exact ⟨hwf.line ha, (hrange id l).1 (hbalanced.line ha)⟩
  · intro j
    exact (hbalanced.markers j).map _
  · intro id hid
    refine ⟨Editor.isBlank_clear e id, fun other hne => Editor.overlay_clear_ne hne e, ?_⟩
    intro j
    rw [← List.map_append]
    refine List.Perm.map _ ((hbalanced.split hid j).trans ?_)
    refine List.Perm.trans ?_ ((hbalanced.markers_clear_perm hid j).symm.append_left _)
    exact List.perm_append_comm_assoc _ _ _
  · intro id a hid taken
    have htaken : taken = e.accepts id a.line := by
      simp only [taken, Editor.annotate]
      split <;> simp_all
    refine ⟨?_, ?_, ?_⟩
    · rw [htaken, Editor.accepts_iff, hrange]
    · intro h
      rw [htaken] at h
      rw [Editor.annotations_annotate hid, if_pos h]
      exact Table.put_of_not_mem (Editor.accepts_iff.1 h).1 a
    · intro h
      rw [htaken] at h
      exact Editor.annotate_of_not_accepts (by rw [h]; exact Bool.false_ne_true)

/-- Two overlays and a marker of its own on a surface whose second line is broken: clearing the
first overlay leaves the markers of the second. -/
example :
    let s := Session.begin.run
      [.addSurface ["a", "bc"], .breakLines 0 [2], .addOverlay 0, .addOverlay 0,
        .annotate 0 ⟨1, "x", ""⟩, .annotate 0 ⟨2, "y", ""⟩, .annotate 0 ⟨3, "z", ""⟩,
        .annotate 1 ⟨1, "w", ""⟩, .pin 0 ⟨7, 0, "p", "p"⟩, .clear 0]
    (s.editor.surface 0).markers.map (·.2) = [⟨1, 1, " w", "w"⟩, ⟨7, 0, "p", "p"⟩] := by
  decide

end Session

end VarsAdvisor

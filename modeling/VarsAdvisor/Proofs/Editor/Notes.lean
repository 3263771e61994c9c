import Mathlib.Data.List.Perm.Basic
import VarsAdvisor.Proofs.Editor.Markers

/-!
# The markers of overlays

An overlay has one marker on its surface for each annotation whose handle is not broken
(`Overlay.notes`); `Editor.notesOn` are those of all overlays on a surface. What an operation does
to the markers of a surface (`markers_release`, `markers_clear`, `markers_annotate`) is compared
with what it does to these (`notesOn_setOverlay_perm`, `notesOn_annotate_perm`).
-/

namespace VarsAdvisor

/-- The markers that an overlay has on a surface, with their numbers. -/
def Overlay.notes (o : Overlay) (s : Surface) : Table Nat Marker :=
  o.annotations.filterMap fun (line, a) =>
    match o.handles.get? line with
    | some h =>
      if h.broken then none
      else some (h.number, ⟨line, s.lineLength line, " " ++ a.text, a.text⟩)
    | none => none

/-- The markers that an overlay has on the surface of an identity. -/
def Overlay.notesAt (o : Overlay) (id : SurfaceId) (s : Surface) : Table Nat Marker :=
  if o.surface = id then o.notes s else []

/-- The handle can dispose of the marker of this number on the surface. -/
def Handle.reaches (h : Handle) (id : SurfaceId) (number : Nat) : Bool :=
  decide (h.surface = id) && !h.broken && decide (h.number = number)

/-- Handles that can dispose of the same marker are the same. -/
theorem Handle.eq_of_reaches {h h' : Handle} {id : SurfaceId} {n : Nat}
    (hreaches : h.reaches id n = true) (hreaches' : h'.reaches id n = true) : h = h' := by
  obtain ⟨surface, number, broken⟩ := h
  obtain ⟨surface', number', broken'⟩ := h'
  simp only [reaches, Bool.and_eq_true, decide_eq_true_eq, Bool.not_eq_true'] at hreaches hreaches'
  obtain ⟨⟨rfl, rfl⟩, rfl⟩ := hreaches
  obtain ⟨⟨rfl, rfl⟩, rfl⟩ := hreaches'
  rfl

namespace Overlay

theorem lineLength_congr {s s' : Surface} (h : s.lines = s'.lines) :
    s.lineLength = s'.lineLength := by
  funext line
  unfold Surface.lineLength
  rw [h]

theorem notes_congr {s s' : Surface} (h : s.lines = s'.lines) (o : Overlay) :
    o.notes s = o.notes s' := by
  unfold notes
  rw [lineLength_congr h]

theorem notesAt_congr {s s' : Surface} (h : s.lines = s'.lines) (o : Overlay) (id : SurfaceId) :
    o.notesAt id s = o.notesAt id s' := by
  unfold notesAt
  rw [notes_congr h]

@[simp] theorem notesAt_onSurface (id j : SurfaceId) (s : Surface) :
    (Overlay.onSurface id).notesAt j s = [] := by
  unfold notesAt
  split <;> rfl

theorem notesAt_self (o : Overlay) (s : Surface) : o.notesAt o.surface s = o.notes s :=
  if_pos rfl

theorem notesAt_ne {o : Overlay} {id : SurfaceId} (h : o.surface ≠ id) (s : Surface) :
    o.notesAt id s = [] :=
  if_neg h

/-- The numbers of an overlay's markers are those of its handles that are not broken. -/
theorem mem_keys_notes {o : Overlay} (ho : o.WF) (s : Surface) (n : Nat) :
    n ∈ (o.notes s).keys ↔ ∃ h ∈ o.held, h.broken = false ∧ h.number = n := by
  have hnodup : o.handles.keys.Nodup := by
    rw [ho.handles]
    exact ho.nodup
  unfold notes held Table.keys
  simp only [List.mem_map, List.mem_filterMap, Prod.exists]
  constructor
  · rintro ⟨_, m, ⟨line, a, -, hnote⟩, rfl⟩
    split at hnote
    · next h hget =>
      split at hnote
      · cases hnote
      · next hb =>
        cases hnote
        exact ⟨h, ⟨line, h, Table.mem_of_get? hget, rfl⟩, by simpa using hb, rfl⟩
    · cases hnote
  · rintro ⟨h, ⟨line, h', hmem, rfl⟩, hb, rfl⟩
    have hget := (Table.mem_iff_get? hnodup).1 hmem
    have hline : line ∈ o.annotations.keys := by
      rw [← ho.handles]
      exact Table.mem_keys_of_get? hget
    obtain ⟨⟨l, a⟩, hentry, rfl⟩ := List.mem_map.1 hline
    refine ⟨h'.number, ⟨l, s.lineLength l, " " ++ a.text, a.text⟩, ⟨l, a, hentry, ?_⟩, rfl⟩
    rw [hget]
    simp only [hb]
    rfl

/-- A further annotation adds its marker, unless the handle is broken. -/
theorem notes_put {o : Overlay} {a : Annotation} (hfree : a.line ∉ o.annotations.keys)
    (h : Handle) (s : Surface) :
    { o with
      annotations := o.annotations.put a.line a
      handles := o.handles.put a.line h }.notes s =
      o.notes s ++
        if h.broken then []
        else [(h.number, ⟨a.line, s.lineLength a.line, " " ++ a.text, a.text⟩)] := by
  unfold notes
  rw [Table.put_of_not_mem hfree, List.filterMap_append]
  congr 1
  · apply List.filterMap_congr
    rintro ⟨line, b⟩ hmem
    have hne : a.line ≠ line := by
      rintro rfl
      exact hfree (List.mem_map_of_mem hmem)
    simp only [Table.get?_put, if_neg hne]
  · simp only [List.filterMap_cons, List.filterMap_nil, Table.get?_put, if_true]
    split <;> simp_all

theorem notesAt_put {o : Overlay} {a : Annotation} (hfree : a.line ∉ o.annotations.keys)
    {h : Handle} (hhome : h.surface = o.surface) (j : SurfaceId) (s : Surface) :
    { o with
      annotations := o.annotations.put a.line a
      handles := o.handles.put a.line h }.notesAt j s =
      o.notesAt j s ++
        if h.reaches j h.number then
          [(h.number, ⟨a.line, s.lineLength a.line, " " ++ a.text, a.text⟩)]
        else [] := by
  unfold notesAt
  by_cases hj : o.surface = j
  · rw [if_pos hj, if_pos hj, notes_put hfree]
    cases hb : h.broken <;> simp [Handle.reaches, hhome, hj, hb]
  · rw [if_neg hj, if_neg hj]
    simp [Handle.reaches, hhome, hj]

end Overlay

/-! ## Replacing an item of a list -/

theorem flatMap_set_perm {α β : Type} {xs : List α} {i : Nat} (hi : i < xs.length) (y : α)
    (f : α → List β) : ((xs.set i y).flatMap f).Perm (f y ++ (xs.eraseIdx i).flatMap f) := by
  rw [List.set_eq_take_append_cons_drop, if_pos hi, List.eraseIdx_eq_take_drop_succ]
  simp only [List.flatMap_append, List.flatMap_cons]
  exact List.perm_append_comm_assoc _ _ _

theorem flatMap_perm_getElem {α β : Type} {xs : List α} {i : Nat} (hi : i < xs.length)
    (f : α → List β) : (xs.flatMap f).Perm (f xs[i] ++ (xs.eraseIdx i).flatMap f) := by
  have h := flatMap_set_perm hi xs[i] f
  rwa [List.set_getElem_self] at h

namespace Editor

/-! ## Markers after one operation -/

theorem markers_setSurface {e : Editor} {id : SurfaceId} (hid : id < e.surfaces.length)
    (s : Surface) (j : SurfaceId) :
    ((e.setSurface id s).surface j).markers =
      if j = id then s.markers else (e.surface j).markers := by
  by_cases hj : j = id
  · subst hj
    rw [surface_setSurface_self hid, if_pos rfl]
  · rw [surface_setSurface_ne hj, if_neg hj]

/-- Disposing of a handle takes off what the handle reaches. -/
theorem markers_release (e : Editor) (h : Handle) (j : SurfaceId) :
    ((e.release h).surface j).markers = (e.surface j).markers.filter fun p => !h.reaches j p.1 := by
  unfold release dispose?
  by_cases hb : h.broken = true
  · simp [hb, Handle.reaches]
  rw [if_neg hb, Option.getD_some]
  by_cases hid : h.surface < e.surfaces.length
  · rw [markers_setSurface hid]
    by_cases hj : j = h.surface
    · subst hj
      simp [Table.erase, Handle.reaches, hb, eq_comm]
    · simp [hj, Handle.reaches, Ne.symm hj]
  · rw [setSurface_of_le (Nat.le_of_not_lt hid)]
    by_cases hj : j = h.surface
    · subst hj
      rw [surface_of_le (Nat.le_of_not_lt hid)]
      rfl
    · simp [Handle.reaches, Ne.symm hj]

theorem markers_releaseAll (hs : List Handle) (e : Editor) (j : SurfaceId) :
    ((hs.foldl release e).surface j).markers =
      (e.surface j).markers.filter fun p => !hs.any (·.reaches j p.1) := by
  induction hs generalizing e with
  | nil => simp
  | cons h hs ih =>
    rw [List.foldl_cons, ih, markers_release, List.filter_filter]
    simp [Bool.and_comm]

theorem overlays_release (e : Editor) (h : Handle) : (e.release h).overlays = e.overlays := by
  unfold release dispose?
  split <;> rfl

theorem overlays_releaseAll (hs : List Handle) (e : Editor) :
    (hs.foldl release e).overlays = e.overlays := by
  induction hs generalizing e with
  | nil => rfl
  | cons h hs ih => rw [List.foldl_cons, ih, overlays_release]

theorem markers_clear (e : Editor) (id : OverlayId) (j : SurfaceId) :
    ((e.clear id).surface j).markers =
      (e.surface j).markers.filter fun p => !(e.overlay id).held.any (·.reaches j p.1) := by
  unfold clear
  rw [surface_setOverlay]
  exact markers_releaseAll _ e j

theorem Tidy.nextMarker_not_mem {e : Editor} (he : e.Tidy) (j : SurfaceId) :
    e.nextMarker ∉ (e.surface j).markers.keys := by
  rw [Table.mem_keys_iff]
  intro hkept
  exact Nat.lt_irrefl _ (he.numbered (h := ⟨j, e.nextMarker, true⟩) hkept)

/-- A new marker is kept last, unless its handle is broken. -/
theorem markers_createMarker {e : Editor} (he : e.Tidy) {id : SurfaceId}
    (hid : id < e.surfaces.length) (m : Marker) (j : SurfaceId) :
    ((e.createMarker id m).1.surface j).markers = (e.surface j).markers ++
      if (e.createMarker id m).2.reaches j e.nextMarker then [(e.nextMarker, m)] else [] := by
  have hnew := he.nextMarker_not_mem id
  have hset := markers_setSurface hid
    (if (e.surface id).brokenLines.contains m.line then e.surface id
      else { e.surface id with markers := (e.surface id).markers.put e.nextMarker m }) j
  unfold createMarker
  dsimp only
  refine hset.trans ?_
  by_cases hj : j = id
  · subst hj
    rw [if_pos rfl]
    by_cases hb : m.line ∈ (e.surface j).brokenLines
    · simp [hb, Handle.reaches]
    · simp [hb, Handle.reaches, Table.put_of_not_mem hnew]
  · simp [hj, Handle.reaches, Ne.symm hj]

/-! ## Notes after one operation -/

/-- The markers that overlays have on a surface. -/
def notesOn (e : Editor) (j : SurfaceId) : Table Nat Marker :=
  e.overlays.flatMap fun o => o.notesAt j (e.surface j)

theorem notesOn_congr {e e' : Editor} (hoverlays : e'.overlays = e.overlays) {j : SurfaceId}
    (hlines : (e'.surface j).lines = (e.surface j).lines) : e'.notesOn j = e.notesOn j := by
  unfold notesOn
  simp only [hoverlays, Overlay.notesAt_congr hlines]

/-- The markers that the other overlays have on a surface. -/
def notesBeside (e : Editor) (id : OverlayId) (j : SurfaceId) : Table Nat Marker :=
  (e.overlays.eraseIdx id).flatMap fun o => o.notesAt j (e.surface j)

theorem notesBeside_congr {e e' : Editor} (hoverlays : e'.overlays = e.overlays) (id : OverlayId)
    {j : SurfaceId} (hlines : (e'.surface j).lines = (e.surface j).lines) :
    e'.notesBeside id j = e.notesBeside id j := by
  unfold notesBeside
  simp only [hoverlays, Overlay.notesAt_congr hlines]

theorem overlay_eq_getElem {e : Editor} {id : OverlayId} (hid : id < e.overlays.length) :
    e.overlay id = e.overlays[id] := by
  unfold overlay
  rw [List.getD_eq_getElem?_getD, List.getElem?_eq_getElem hid]
  rfl

theorem notesOn_perm {e : Editor} {id : OverlayId} (hid : id < e.overlays.length) (j : SurfaceId) :
    (e.notesOn j).Perm ((e.overlay id).notesAt j (e.surface j) ++ e.notesBeside id j) := by
  rw [overlay_eq_getElem hid]
  exact flatMap_perm_getElem hid _

theorem notesOn_setOverlay_perm {e : Editor} {id : OverlayId} (hid : id < e.overlays.length)
    (o : Overlay) (j : SurfaceId) :
    ((e.setOverlay id o).notesOn j).Perm (o.notesAt j (e.surface j) ++ e.notesBeside id j) :=
  flatMap_set_perm hid o _

/-- Every marker that overlays have on a surface has the number of a handle that one of them
holds. -/
theorem exists_held_of_mem_notesOn {e : Editor} (he : e.Tidy) {j : SurfaceId} {n : Nat}
    (hn : n ∈ (e.notesOn j).keys) :
    ∃ id, ∃ h ∈ (e.overlay id).held, h.broken = false ∧ h.number = n := by
  obtain ⟨p, hp, rfl⟩ := List.mem_map.1 hn
  obtain ⟨o, ho, hnote⟩ := List.mem_flatMap.1 hp
  obtain ⟨id, hid, rfl⟩ := List.getElem_of_mem ho
  rw [← overlay_eq_getElem hid] at hnote
  unfold Overlay.notesAt at hnote
  split at hnote
  · exact ⟨id, (Overlay.mem_keys_notes (he.wf id) _ _).1 (List.mem_map_of_mem hnote)⟩
  · cases hnote

/-! ## Annotating -/

theorem surface_lt {e : Editor} {id : OverlayId} {l : Int}
    (h : (e.surfaceOf id).hasLine l = true) : (e.overlay id).surface < e.surfaces.length := by
  by_contra hle
  unfold surfaceOf at h
  rw [surface_of_le (Nat.le_of_not_lt hle)] at h
  simp only [Surface.hasLine, Bool.and_eq_true, decide_eq_true_eq] at h
  have hnone : (Surface.ofLines []).lineCount = 0 := rfl
  omega

/-- The lines that exist are the same after a line has been annotated. -/
theorem hasLine_annotate {e : Editor} {id : OverlayId} (hid : id < e.overlays.length)
    (a : Annotation) (j : OverlayId) (l : Int) :
    ((e.annotate id a).1.surfaceOf j).hasLine l = (e.surfaceOf j).hasLine l := by
  by_cases hj : j = id
  · subst hj
    exact hasLine_congr (lines_surfaceOf_annotate hid a) l
  · unfold surfaceOf
    rw [overlay_annotate_ne hj]
    exact hasLine_congr (lines_annotate e id a _) l

theorem annotate_of_accepts {e : Editor} {id : OverlayId} {a : Annotation}
    (h : e.accepts id a.line = true) :
    (e.annotate id a).1 =
      let made := e.createMarker (e.overlay id).surface (markerFor (e.surfaceOf id) a)
      made.1.setOverlay id
        { e.overlay id with
          annotations := (e.overlay id).annotations.put a.line a
          handles := (e.overlay id).handles.put a.line made.2 } := by
  unfold annotate
  rw [if_pos h]
  rfl

theorem annotate_of_not_accepts {e : Editor} {id : OverlayId} {a : Annotation}
    (h : ¬ e.accepts id a.line = true) : (e.annotate id a).1 = e := by
  unfold annotate
  rw [if_neg h]

/-- The marker that an accepted annotation adds to a surface. -/
def noteAdded (e : Editor) (id : OverlayId) (a : Annotation) (j : SurfaceId) : Table Nat Marker :=
  let m := markerFor (e.surfaceOf id) a
  if (e.createMarker (e.overlay id).surface m).2.reaches j e.nextMarker then [(e.nextMarker, m)]
  else []

theorem markers_annotate {e : Editor} (he : e.Tidy) {id : OverlayId} {a : Annotation}
    (hacc : e.accepts id a.line = true) (j : SurfaceId) :
    ((e.annotate id a).1.surface j).markers = (e.surface j).markers ++ e.noteAdded id a j := by
  rw [annotate_of_accepts hacc]
  exact markers_createMarker he (surface_lt (accepts_iff.1 hacc).2) _ j

theorem notesOn_annotate_perm {e : Editor} {id : OverlayId} (hid : id < e.overlays.length)
    {a : Annotation} (hacc : e.accepts id a.line = true) (j : SurfaceId) :
    ((e.annotate id a).1.notesOn j).Perm (e.notesOn j ++ e.noteAdded id a j) := by
  let made := e.createMarker (e.overlay id).surface (markerFor (e.surfaceOf id) a)
  let o : Overlay :=
    { e.overlay id with
      annotations := (e.overlay id).annotations.put a.line a
      handles := (e.overlay id).handles.put a.line made.2 }
  have hlines : (made.1.surface j).lines = (e.surface j).lines := lines_createMarker _ _ _ _
  have hown : o.notesAt j (made.1.surface j) =
      (e.overlay id).notesAt j (e.surface j) ++ e.noteAdded id a j := by
    rw [Overlay.notesAt_congr hlines, Overlay.notesAt_put (accepts_iff.1 hacc).1 rfl]
    congr 1
    by_cases hj : (e.overlay id).surface = j
    · subst hj
      rfl
    · simp [noteAdded, Handle.reaches, made, createMarker, hj]
  have hoverlays : made.1.overlays = e.overlays := rfl
  have hbeside := notesBeside_congr hoverlays id hlines
  rw [annotate_of_accepts hacc]
  calc (made.1.setOverlay id o).notesOn j
    _ |>.Perm (o.notesAt j (made.1.surface j) ++ made.1.notesBeside id j) :=
      notesOn_setOverlay_perm (e := made.1) (by rwa [length_createMarker]) o j
    _ |>.Perm ((e.overlay id).notesAt j (e.surface j) ++ e.noteAdded id a j ++
        e.notesBeside id j) := by rw [hown, hbeside]
    _ |>.Perm ((e.overlay id).notesAt j (e.surface j) ++ e.notesBeside id j ++
        e.noteAdded id a j) := by
      rw [List.append_assoc, List.append_assoc]
      exact List.perm_append_comm.append_left _
    _ |>.Perm (e.notesOn j ++ e.noteAdded id a j) := (notesOn_perm hid j).symm.append_right _

end Editor

end VarsAdvisor

import VarsAdvisor.Editor.Overlay

/-!
# What operations on an editor leave alone

Operations on one overlay change no other overlay (`overlay_annotateAll_ne`, `overlay_clear_ne`),
nor which overlay a document has. Of a surface none of them changes more than the markers
(`bare_annotateAll`, `bare_clear`), so its lines stay.
-/

namespace VarsAdvisor

/-- A surface without its markers. -/
def Surface.bare (s : Surface) : Surface :=
  { s with markers := [] }

namespace Editor

/-! ## One surface or overlay set -/

@[simp] theorem surface_setOverlay (e : Editor) (id : OverlayId) (o : Overlay) (j : SurfaceId) :
    (e.setOverlay id o).surface j = e.surface j := rfl

@[simp] theorem length_setOverlay (e : Editor) (id : OverlayId) (o : Overlay) :
    (e.setOverlay id o).overlays.length = e.overlays.length :=
  List.length_set

theorem overlay_setOverlay_self {e : Editor} {id : OverlayId} (h : id < e.overlays.length)
    (o : Overlay) : (e.setOverlay id o).overlay id = o := by
  unfold overlay setOverlay
  rw [List.getD_eq_getElem?_getD, List.getElem?_set_self h]
  rfl

theorem overlay_setOverlay_ne {id j : OverlayId} (h : j ≠ id) (e : Editor) (o : Overlay) :
    (e.setOverlay id o).overlay j = e.overlay j := by
  unfold overlay setOverlay
  rw [List.getD_eq_getElem?_getD, List.getElem?_set_ne h.symm, ← List.getD_eq_getElem?_getD]

theorem surface_setSurface_self {e : Editor} {id : SurfaceId} (h : id < e.surfaces.length)
    (s : Surface) : (e.setSurface id s).surface id = s := by
  unfold surface setSurface
  rw [List.getD_eq_getElem?_getD, List.getElem?_set_self h]
  rfl

theorem surface_setSurface_ne {id j : SurfaceId} (h : j ≠ id) (e : Editor) (s : Surface) :
    (e.setSurface id s).surface j = e.surface j := by
  unfold surface setSurface
  rw [List.getD_eq_getElem?_getD, List.getElem?_set_ne h.symm, ← List.getD_eq_getElem?_getD]

/-- A surface that is not in use cannot be changed. -/
theorem setSurface_of_le {e : Editor} {id : SurfaceId} (h : e.surfaces.length ≤ id) (s : Surface) :
    e.setSurface id s = e := by
  unfold setSurface
  rw [List.set_eq_of_length_le h]

/-- What a surface has in common with the one in its place is not changed. -/
theorem surface_setSurface_congr {α : Type} {f : Surface → α} {e : Editor} {id : SurfaceId}
    {s : Surface} (h : f s = f (e.surface id)) (j : SurfaceId) :
    f ((e.setSurface id s).surface j) = f (e.surface j) := by
  by_cases hlt : id < e.surfaces.length
  · by_cases hj : j = id
    · subst hj
      rw [surface_setSurface_self hlt, h]
    · rw [surface_setSurface_ne hj]
  · rw [setSurface_of_le (Nat.le_of_not_lt hlt)]

theorem lines_of_bare {s s' : Surface} (h : s.bare = s'.bare) : s.lines = s'.lines :=
  (Surface.mk.inj h).1

theorem brokenLines_of_bare {s s' : Surface} (h : s.bare = s'.bare) :
    s.brokenLines = s'.brokenLines :=
  (Surface.mk.inj h).2.1

/-! ## Further surfaces and overlays -/

theorem getD_concat {α : Type} (xs : List α) (x d : α) (j : Nat) :
    (xs ++ [x]).getD j d = if j = xs.length then x else xs.getD j d := by
  simp only [List.getD_eq_getElem?_getD]
  rcases Nat.lt_trichotomy j xs.length with hlt | heq | hgt
  · rw [List.getElem?_append_left hlt, if_neg (Nat.ne_of_lt hlt)]
  · rw [heq, List.getElem?_concat_length, if_pos rfl]
    rfl
  · rw [if_neg (Nat.ne_of_gt hgt), List.getElem?_eq_none (by simp; omega),
      List.getElem?_eq_none (Nat.le_of_lt hgt)]

theorem surface_addSurface (e : Editor) (s : Surface) (j : SurfaceId) :
    (e.addSurface s).1.surface j = if j = e.surfaces.length then s else e.surface j :=
  getD_concat _ _ _ _

theorem overlay_addOverlay (e : Editor) (id : SurfaceId) (j : OverlayId) :
    (e.addOverlay id).1.overlay j = if j = e.overlays.length then .onSurface id else e.overlay j :=
  getD_concat _ _ _ _

/-! ## Markers -/

@[simp] theorem overlay_createMarker (e : Editor) (id : SurfaceId) (m : Marker) (j : OverlayId) :
    (e.createMarker id m).1.overlay j = e.overlay j := rfl

@[simp] theorem length_createMarker (e : Editor) (id : SurfaceId) (m : Marker) :
    (e.createMarker id m).1.overlays.length = e.overlays.length := rfl

@[simp] theorem documents_createMarker (e : Editor) (id : SurfaceId) (m : Marker) :
    (e.createMarker id m).1.documents = e.documents := rfl

theorem length_surfaces_createMarker (e : Editor) (id : SurfaceId) (m : Marker) :
    (e.createMarker id m).1.surfaces.length = e.surfaces.length :=
  List.length_set

theorem bare_createMarker (e : Editor) (id : SurfaceId) (m : Marker) (j : SurfaceId) :
    ((e.createMarker id m).1.surface j).bare = (e.surface j).bare := by
  refine surface_setSurface_congr (f := Surface.bare) (e := e) ?_ j
  split <;> rfl

theorem lines_createMarker (e : Editor) (id : SurfaceId) (m : Marker) (j : SurfaceId) :
    ((e.createMarker id m).1.surface j).lines = (e.surface j).lines :=
  lines_of_bare (bare_createMarker e id m j)

@[simp] theorem overlay_release (e : Editor) (h : Handle) (j : OverlayId) :
    (e.release h).overlay j = e.overlay j := by
  unfold release dispose?
  split <;> rfl

@[simp] theorem length_release (e : Editor) (h : Handle) :
    (e.release h).overlays.length = e.overlays.length := by
  unfold release dispose?
  split <;> rfl

@[simp] theorem documents_release (e : Editor) (h : Handle) :
    (e.release h).documents = e.documents := by
  unfold release dispose?
  split <;> rfl

theorem length_surfaces_release (e : Editor) (h : Handle) :
    (e.release h).surfaces.length = e.surfaces.length := by
  unfold release dispose?
  split
  · rfl
  · exact List.length_set

theorem bare_release (e : Editor) (h : Handle) (j : SurfaceId) :
    ((e.release h).surface j).bare = (e.surface j).bare := by
  unfold release dispose?
  split
  · rfl
  · let s := e.surface h.surface
    have hs : { s with markers := s.markers.erase h.number }.bare = (e.surface h.surface).bare :=
      rfl
    exact surface_setSurface_congr hs j

theorem lines_release (e : Editor) (h : Handle) (j : SurfaceId) :
    ((e.release h).surface j).lines = (e.surface j).lines :=
  lines_of_bare (bare_release e h j)

@[simp] theorem overlay_releaseAll (hs : List Handle) (e : Editor) (j : OverlayId) :
    (hs.foldl release e).overlay j = e.overlay j := by
  induction hs generalizing e with
  | nil => rfl
  | cons h hs ih => rw [List.foldl_cons, ih, overlay_release]

@[simp] theorem length_releaseAll (hs : List Handle) (e : Editor) :
    (hs.foldl release e).overlays.length = e.overlays.length := by
  induction hs generalizing e with
  | nil => rfl
  | cons h hs ih => rw [List.foldl_cons, ih, length_release]

@[simp] theorem documents_releaseAll (hs : List Handle) (e : Editor) :
    (hs.foldl release e).documents = e.documents := by
  induction hs generalizing e with
  | nil => rfl
  | cons h hs ih => rw [List.foldl_cons, ih, documents_release]

theorem length_surfaces_releaseAll (hs : List Handle) (e : Editor) :
    (hs.foldl release e).surfaces.length = e.surfaces.length := by
  induction hs generalizing e with
  | nil => rfl
  | cons h hs ih => rw [List.foldl_cons, ih, length_surfaces_release]

theorem bare_releaseAll (hs : List Handle) (e : Editor) (j : SurfaceId) :
    ((hs.foldl release e).surface j).bare = (e.surface j).bare := by
  induction hs generalizing e with
  | nil => rfl
  | cons h hs ih => rw [List.foldl_cons, ih, bare_release]

theorem lines_releaseAll (hs : List Handle) (e : Editor) (j : SurfaceId) :
    ((hs.foldl release e).surface j).lines = (e.surface j).lines :=
  lines_of_bare (bare_releaseAll hs e j)

/-! ## Clearing -/

@[simp] theorem length_clear (e : Editor) (id : OverlayId) :
    (e.clear id).overlays.length = e.overlays.length := by
  unfold clear
  rw [length_setOverlay, length_releaseAll]

/-- A cleared overlay has neither annotations nor handles. -/
theorem overlay_clear_self {e : Editor} {id : OverlayId} (h : id < e.overlays.length) :
    (e.clear id).overlay id = .onSurface (e.overlay id).surface := by
  unfold clear
  exact overlay_setOverlay_self (by rwa [length_releaseAll]) _

theorem overlay_clear_ne {id j : OverlayId} (h : j ≠ id) (e : Editor) :
    (e.clear id).overlay j = e.overlay j := by
  unfold clear
  rw [overlay_setOverlay_ne h, overlay_releaseAll]

@[simp] theorem documents_clear (e : Editor) (id : OverlayId) :
    (e.clear id).documents = e.documents :=
  documents_releaseAll _ e

theorem length_surfaces_clear (e : Editor) (id : OverlayId) :
    (e.clear id).surfaces.length = e.surfaces.length :=
  length_surfaces_releaseAll _ e

theorem bare_clear (e : Editor) (id : OverlayId) (j : SurfaceId) :
    ((e.clear id).surface j).bare = (e.surface j).bare := by
  unfold clear
  rw [surface_setOverlay, bare_releaseAll]

theorem lines_clear (e : Editor) (id : OverlayId) (j : SurfaceId) :
    ((e.clear id).surface j).lines = (e.surface j).lines :=
  lines_of_bare (bare_clear e id j)

/-! ## Annotating -/

@[simp] theorem length_annotate (e : Editor) (id : OverlayId) (a : Annotation) :
    (e.annotate id a).1.overlays.length = e.overlays.length := by
  unfold annotate
  split
  · rw [length_setOverlay, length_createMarker]
  · rfl

theorem overlay_annotate_ne {id j : OverlayId} (h : j ≠ id) (e : Editor) (a : Annotation) :
    (e.annotate id a).1.overlay j = e.overlay j := by
  unfold annotate
  split
  · rw [overlay_setOverlay_ne h, overlay_createMarker]
  · rfl

@[simp] theorem documents_annotate (e : Editor) (id : OverlayId) (a : Annotation) :
    (e.annotate id a).1.documents = e.documents := by
  unfold annotate
  split <;> rfl

theorem length_surfaces_annotate (e : Editor) (id : OverlayId) (a : Annotation) :
    (e.annotate id a).1.surfaces.length = e.surfaces.length := by
  unfold annotate
  split
  · exact length_surfaces_createMarker _ _ _
  · rfl

theorem bare_annotate (e : Editor) (id : OverlayId) (a : Annotation) (j : SurfaceId) :
    ((e.annotate id a).1.surface j).bare = (e.surface j).bare := by
  unfold annotate
  split
  · rw [surface_setOverlay, bare_createMarker]
  · rfl

theorem lines_annotate (e : Editor) (id : OverlayId) (a : Annotation) (j : SurfaceId) :
    ((e.annotate id a).1.surface j).lines = (e.surface j).lines :=
  lines_of_bare (bare_annotate e id a j)

@[simp] theorem annotateAll_nil (e : Editor) (id : OverlayId) : e.annotateAll id [] = e := rfl

theorem annotateAll_cons (e : Editor) (id : OverlayId) (a : Annotation) (as : List Annotation) :
    e.annotateAll id (a :: as) = (e.annotate id a).1.annotateAll id as := rfl

theorem annotateAll_append (e : Editor) (id : OverlayId) (as bs : List Annotation) :
    e.annotateAll id (as ++ bs) = (e.annotateAll id as).annotateAll id bs :=
  List.foldl_append

theorem length_annotateAll (e : Editor) (id : OverlayId) (as : List Annotation) :
    (e.annotateAll id as).overlays.length = e.overlays.length := by
  induction as generalizing e with
  | nil => rfl
  | cons a as ih => rw [annotateAll_cons, ih, length_annotate]

theorem overlay_annotateAll_ne {id j : OverlayId} (h : j ≠ id) (e : Editor) (as : List Annotation) :
    (e.annotateAll id as).overlay j = e.overlay j := by
  induction as generalizing e with
  | nil => rfl
  | cons a as ih => rw [annotateAll_cons, ih, overlay_annotate_ne h]

@[simp] theorem documents_annotateAll (e : Editor) (id : OverlayId) (as : List Annotation) :
    (e.annotateAll id as).documents = e.documents := by
  induction as generalizing e with
  | nil => rfl
  | cons a as ih => rw [annotateAll_cons, ih, documents_annotate]

theorem bare_annotateAll (e : Editor) (id : OverlayId) (as : List Annotation) (j : SurfaceId) :
    ((e.annotateAll id as).surface j).bare = (e.surface j).bare := by
  induction as generalizing e with
  | nil => rfl
  | cons a as ih => rw [annotateAll_cons, ih, bare_annotate]

end Editor

end VarsAdvisor

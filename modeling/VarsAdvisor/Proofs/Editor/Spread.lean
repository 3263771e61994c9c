import VarsAdvisor.Proofs.Editor.View

/-!
# Overlays on surfaces of their own

Documents that are opened on new surfaces each time leave every overlay alone on its surface
(`Editor.Spread`), whether the overlay is still that of its document or not. So an overlay may be
annotated that no document has any more, and each surface still shows what its own overlay holds
(`Spread.shown`).
-/

namespace VarsAdvisor.Editor

variable {e e' : Editor} {document : String}

/-- Each overlay in use is on a surface in use, on which no other one is; the overlays of open
documents are in use; no line is broken, so no handle is; and there are no other markers than those
of overlays. -/
structure Spread (e : Editor) : Prop where
  balanced : e.Balanced fun _ => []
  inUse : ∀ {document : String} {id : OverlayId}, e.overlayOf? document = some id →
    id < e.overlays.length
  bound : ∀ {id : OverlayId}, id < e.overlays.length → (e.overlay id).surface < e.surfaces.length
  apart : ∀ {id id' : OverlayId}, id < e.overlays.length → id' < e.overlays.length →
    (e.overlay id).surface = (e.overlay id').surface → id = id'
  intact : ∀ {id : OverlayId} {h : Handle}, h ∈ (e.overlay id).held → h.broken = false
  whole : ∀ j, (e.surface j).brokenLines = []

/-- An overlay keeps the lines of its surface, if overlays and surfaces stay what they are but for
annotations and markers. -/
theorem bare_surfaceOf {id : OverlayId} (hsurface : (e'.overlay id).surface = (e.overlay id).surface)
    (hbare : ∀ j, (e'.surface j).bare = (e.surface j).bare) :
    (e'.surfaceOf id).bare = (e.surfaceOf id).bare := by
  unfold surfaceOf
  rw [hsurface, hbare]

theorem surfaceOf_closeDocument (e : Editor) (document : String) (id : OverlayId) :
    ((e.closeDocument document).1.surfaceOf id).bare = (e.surfaceOf id).bare := by
  rw [closeDocument_eq]
  exact bare_surfaceOf (surface_vacate e document id) (bare_vacate e document)

namespace Spread

theorem empty : Spread Editor.empty := by
  refine ⟨.empty, ?_, ?_, ?_, ?_, fun _ => rfl⟩
  all_goals intros; contradiction

/-- Overlays stay spread while they stay on their surfaces, and no more of them are used. -/
theorem congr (he : e.Spread) (hbalanced : e'.Balanced fun _ => [])
    (hlookup : ∀ {document : String} {id : OverlayId}, e'.overlayOf? document = some id →
      e.overlayOf? document = some id)
    (hoverlays : e'.overlays.length = e.overlays.length)
    (hsurfaces : e'.surfaces.length = e.surfaces.length)
    (hsurface : ∀ id, (e'.overlay id).surface = (e.overlay id).surface)
    (hbare : ∀ j, (e'.surface j).bare = (e.surface j).bare)
    (hintact : ∀ {id : OverlayId} {h : Handle}, h ∈ (e'.overlay id).held → h.broken = false) :
    e'.Spread := by
  refine ⟨hbalanced, ?_, ?_, ?_, hintact, ?_⟩
  · intro document id h
    rw [hoverlays]
    exact he.inUse (hlookup h)
  · intro id hid
    rw [hoverlays] at hid
    rw [hsurface, hsurfaces]
    exact he.bound hid
  · intro id id' hid hid' hsame
    rw [hoverlays] at hid hid'
    rw [hsurface, hsurface] at hsame
    exact he.apart hid hid' hsame
  · intro j
    rw [brokenLines_of_bare (hbare j)]
    exact he.whole j

theorem annotate (he : e.Spread) {id : OverlayId} (hid : id < e.overlays.length) (a : Annotation) :
    (e.annotate id a).1.Spread := by
  refine he.congr (he.balanced.annotate hid a) ?_ (length_annotate e id a)
    (length_surfaces_annotate e id a) (surface_annotate e id a) (bare_annotate e id a) ?_
  · intro document j h
    rwa [overlayOf?_annotate] at h
  · exact intact_annotate he.balanced.tidy he.whole he.intact id a

theorem annotateAll (he : e.Spread) {id : OverlayId} (hid : id < e.overlays.length)
    (as : List Annotation) : (e.annotateAll id as).Spread := by
  induction as generalizing e with
  | nil => exact he
  | cons a as ih => exact ih (he.annotate hid a) (by rwa [length_annotate])

theorem clear (he : e.Spread) {id : OverlayId} (hid : id < e.overlays.length) :
    (e.clear id).Spread := by
  refine he.congr (he.balanced.clear hid) ?_ (length_clear e id) (length_surfaces_clear e id)
    (surface_clear e id) (bare_clear e id) ?_
  · intro document j h
    rwa [overlayOf?_clear] at h
  · exact intact_clear he.intact id

theorem vacate (he : e.Spread) (document : String) : (e.vacate document).Spread := by
  unfold Editor.vacate
  split
  · exact he
  · next current hcurrent => exact he.clear (he.inUse hcurrent)

theorem closeDocument (he : e.Spread) (document : String) :
    (e.closeDocument document).1.Spread := by
  rw [closeDocument_eq]
  have hvacated := he.vacate document
  refine hvacated.congr (hvacated.balanced.setDocuments _) ?_ rfl rfl (fun _ => rfl)
    (fun _ => rfl) hvacated.intact
  intro other id h
  rw [overlayOf?_forget] at h
  split at h
  · cases h
  · exact h

theorem addSurface (he : e.Spread) (lines : List String) :
    (e.addSurface (.ofLines lines)).1.Spread := by
  refine ⟨he.balanced.addSurface lines [], he.inUse, ?_, he.apart, he.intact, ?_⟩
  · intro id hid
    have hlength : (e.addSurface (.ofLines lines)).1.surfaces.length = e.surfaces.length + 1 :=
      List.length_append
    rw [hlength]
    exact Nat.lt_succ_of_lt (he.bound hid)
  · intro j
    rw [surface_addSurface]
    split
    · rfl
    · exact he.whole j

/-- A document gets a new overlay on a surface on which there is none. -/
theorem enrol (he : e.Spread) {j : SurfaceId} (hj : j < e.surfaces.length)
    (hfree : ∀ id < e.overlays.length, (e.overlay id).surface ≠ j) (document : String) :
    (e.enrol document j).Spread := by
  have hoverlay := overlay_enrol e document j
  have hlength : (e.enrol document j).overlays.length = e.overlays.length + 1 := List.length_append
  refine ⟨(he.balanced.addOverlay j).setDocuments _, ?_, ?_, ?_, ?_, he.whole⟩
  · intro other id h
    rw [hlength]
    rw [overlayOf?_enrol] at h
    split at h
    · cases h
      exact Nat.lt_succ_self _
    · exact Nat.lt_succ_of_lt (he.inUse h)
  · intro id hid
    rw [hlength] at hid
    rw [hoverlay]
    split
    · exact hj
    · next hne => exact he.bound (Nat.lt_of_le_of_ne (Nat.le_of_lt_succ hid) hne)
  · intro id id' hid hid' hsame
    rw [hlength] at hid hid'
    rw [hoverlay, hoverlay] at hsame
    split at hsame
    · next hnew =>
      split at hsame
      · next hnew' => rw [hnew, hnew']
      · next hne' =>
        have hold := Nat.lt_of_le_of_ne (Nat.le_of_lt_succ hid') hne'
        exact absurd hsame.symm (hfree id' hold)
    · next hne =>
      have hold := Nat.lt_of_le_of_ne (Nat.le_of_lt_succ hid) hne
      split at hsame
      · exact absurd hsame (hfree id hold)
      · next hne' =>
        exact he.apart hold (Nat.lt_of_le_of_ne (Nat.le_of_lt_succ hid') hne') hsame
  · intro id h hmem
    rw [hoverlay] at hmem
    split at hmem
    · cases hmem
    · exact he.intact hmem

/-! ## Opening on new surfaces -/

theorem placed (he : e.Spread) : e.Placed := fun _ _ h => he.bound (he.inUse h)

theorem present (he : e.Spread) (document : String) (lines : List String) :
    (e.present document lines).1.Spread := by
  have hadded := (he.addSurface lines).vacate document
  have hsurfaces : ((e.addSurface (.ofLines lines)).1.vacate document).surfaces.length =
      e.surfaces.length + 1 := (length_surfaces_vacate _ _).trans List.length_append
  rw [he.placed.present_eq]
  refine hadded.enrol (hsurfaces ▸ Nat.lt_succ_self _) (fun id hid => ?_) document
  rw [length_vacate] at hid
  have hsurface : (((e.addSurface (.ofLines lines)).1.vacate document).overlay id).surface =
      (e.overlay id).surface := surface_vacate (e.addSurface (.ofLines lines)).1 document id
  rw [hsurface]
  exact Nat.ne_of_lt (he.bound hid)

theorem length_present (he : e.Spread) (document : String) (lines : List String) :
    (e.present document lines).1.overlays.length = e.overlays.length + 1 := by
  rw [he.placed.present_eq]
  exact List.length_append.trans (congrArg (· + 1) (length_vacate _ _))

theorem overlayOf?_present (he : e.Spread) (document other : String) (lines : List String) :
    (e.present document lines).1.overlayOf? other =
      if document = other then some e.overlays.length else e.overlayOf? other := by
  rw [he.placed.present_eq, overlayOf?_enrol, length_vacate, overlayOf?_vacate]
  rfl

theorem isBlank_present (he : e.Spread) (document : String) (lines : List String) {id : OverlayId}
    (h : (e.overlay id).IsBlank) : ((e.present document lines).1.overlay id).IsBlank := by
  rw [he.placed.present_eq, overlay_enrol]
  split
  · exact ⟨rfl, rfl⟩
  · exact isBlank_vacate_of_isBlank (e := (e.addSurface (.ofLines lines)).1) document h

/-- An overlay keeps its surface, and the surface its lines, when a document is opened. -/
theorem surfaceOf_present (he : e.Spread) (document : String) (lines : List String)
    {id : OverlayId} (hid : id < e.overlays.length) :
    ((e.present document lines).1.surfaceOf id).bare = (e.surfaceOf id).bare := by
  have hne : id ≠ ((e.addSurface (.ofLines lines)).1.vacate document).overlays.length := by
    rw [length_vacate]
    exact Nat.ne_of_lt hid
  rw [he.placed.present_eq]
  unfold surfaceOf
  rw [overlay_enrol, if_neg hne, surface_vacate]
  have hbare := bare_vacate (e.addSurface (.ofLines lines)).1 document (e.overlay id).surface
  rw [surface_addSurface, if_neg (Nat.ne_of_lt (he.bound hid))] at hbare
  exact hbare

/-! ## What surfaces show -/

theorem notesBeside_eq_nil (he : e.Spread) {id : OverlayId} (hid : id < e.overlays.length) :
    e.notesBeside id (e.overlay id).surface = [] := by
  refine List.flatMap_eq_nil_iff.2 fun o ho => ?_
  obtain ⟨other, hother, hne, rfl⟩ := List.mem_eraseIdx_iff_getElem.1 ho
  refine Overlay.notesAt_ne (fun hsame => hne ?_) _
  rw [← overlay_eq_getElem hother] at hsame
  exact he.apart hother hid hsame

/-- **A surface shows what its overlay holds**: for each annotation its marker, in the order of the
lines. -/
theorem shown (he : e.Spread) {id : OverlayId} (hid : id < e.overlays.length) :
    (e.surfaceOf id).shown = (e.overlay id).sorted.map (markerFor (e.surfaceOf id)) := by
  have hwf := he.balanced.tidy.wf id
  have hnotes : (e.surfaceOf id).markers.Perm ((e.overlay id).notes (e.surfaceOf id)) := by
    have hsplit := he.balanced.split hid (e.overlay id).surface
    rwa [he.notesBeside_eq_nil hid, Overlay.notesAt_self, List.append_nil, List.nil_append] at hsplit
  refine shown_of_perm hwf ((hnotes.map _).trans ?_)
  rw [Overlay.notes_of_intact hwf fun _ => he.intact]

end Spread

end VarsAdvisor.Editor

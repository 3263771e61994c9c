import VarsAdvisor.Editor.Open
import VarsAdvisor.Proofs.Editor.FirstWins

/-!
# No marker without its overlay

A surface may go on showing a marker only as long as an overlay holds the handle. In a tidy editor
(`Editor.Tidy`) the handles have numbers that were given out, and a handle that cannot be disposed
of has no marker. So clearing an overlay takes all its markers off the surface (`Tidy.keeps_clear`),
and whatever is done later, none of them comes back (`Accounts`).
-/

namespace VarsAdvisor

/-- The handles that an overlay holds. -/
def Overlay.held (o : Overlay) : List Handle :=
  o.handles.map (·.2)

/-- Nothing is annotated, and no marker is held. -/
def Overlay.IsBlank (o : Overlay) : Prop :=
  o.annotations = [] ∧ o.handles = []

namespace Editor

/-- The surface has the marker of this handle. -/
def keeps (e : Editor) (h : Handle) : Bool :=
  (e.surface h.surface).markers.has h.number

/-! ## Single markers -/

theorem surface_of_le {e : Editor} {id : SurfaceId} (h : e.surfaces.length ≤ id) :
    e.surface id = .ofLines [] := by
  unfold surface
  rw [List.getD_eq_getElem?_getD, List.getElem?_eq_none h]
  rfl

theorem keeps_setSurface (e : Editor) (id : SurfaceId) (s : Surface) (h : Handle) :
    (e.setSurface id s).keeps h =
      if id = h.surface ∧ id < e.surfaces.length then s.markers.has h.number else e.keeps h := by
  unfold keeps
  split
  · next hin =>
    obtain ⟨rfl, hlt⟩ := hin
    rw [surface_setSurface_self hlt]
  · next hout =>
    by_cases hlt : id < e.surfaces.length
    · rw [surface_setSurface_ne fun heq => hout ⟨heq.symm, hlt⟩]
    · rw [setSurface_of_le (Nat.le_of_not_lt hlt)]

/-- A marker that is gone does not come back when another one is disposed of. -/
theorem keeps_release_of_gone {e : Editor} {h : Handle} (hgone : e.keeps h = false) (h' : Handle) :
    (e.release h').keeps h = false := by
  unfold release dispose?
  split
  · exact hgone
  · rw [Option.getD_some, keeps_setSurface]
    split
    · next hsame =>
      have hold : ((e.surface h'.surface).markers.get? h.number).isSome = false := by
        rw [hsame.1]
        exact hgone
      unfold Table.has
      rw [Table.get?_erase]
      split
      · rfl
      · exact hold
    · exact hgone

/-- Disposing of a marker takes it off; a handle that fails must not have had one. -/
theorem keeps_release_self {e : Editor} {h : Handle}
    (hbroken : h.broken = true → e.keeps h = false) : (e.release h).keeps h = false := by
  unfold release dispose?
  split
  · next hb => exact hbroken hb
  · rw [Option.getD_some, keeps_setSurface]
    split
    · unfold Table.has
      rw [Table.get?_erase, if_pos rfl]
      rfl
    · next hout =>
      have hle : e.surfaces.length ≤ h.surface := Nat.le_of_not_lt fun hlt => hout ⟨rfl, hlt⟩
      unfold keeps
      rw [surface_of_le hle]
      rfl

theorem keeps_releaseAll_of_gone {h : Handle} (hs : List Handle) {e : Editor}
    (hgone : e.keeps h = false) : (hs.foldl release e).keeps h = false := by
  induction hs generalizing e with
  | nil => exact hgone
  | cons h' hs ih => exact ih (keeps_release_of_gone hgone h')

theorem keeps_releaseAll {hs : List Handle} {e : Editor}
    (hbroken : ∀ h ∈ hs, h.broken = true → e.keeps h = false) {h : Handle} (hmem : h ∈ hs) :
    (hs.foldl release e).keeps h = false := by
  induction hs generalizing e with
  | nil => cases hmem
  | cons h' hs ih =>
    rcases List.mem_cons.1 hmem with rfl | hmem
    · exact keeps_releaseAll_of_gone hs (keeps_release_self (hbroken h List.mem_cons_self))
    · refine ih ?_ hmem
      intro h'' hmem'' hb
      exact keeps_release_of_gone (hbroken h'' (List.mem_cons_of_mem _ hmem'') hb) h'

/-- A new marker has a new number, so it is none of the older ones. -/
theorem keeps_createMarker {e : Editor} {h : Handle} (hne : h.number ≠ e.nextMarker)
    (id : SurfaceId) (m : Marker) : (e.createMarker id m).1.keeps h = e.keeps h := by
  have hset : ∀ s : Surface, s = e.surface id ∨
      s = { e.surface id with markers := (e.surface id).markers.put e.nextMarker m } →
        (e.setSurface id s).keeps h = e.keeps h := by
    intro s hs
    rw [keeps_setSurface]
    split
    · next hsame =>
      obtain ⟨rfl, -⟩ := hsame
      rcases hs with rfl | rfl
      · rfl
      · unfold keeps Table.has
        rw [Table.get?_put, if_neg hne.symm]
    · rfl
  refine hset _ ?_
  split
  · exact .inl rfl
  · exact .inr rfl

/-! ## Numbers given out -/

@[simp] theorem nextMarker_release (e : Editor) (h : Handle) :
    (e.release h).nextMarker = e.nextMarker := by
  unfold release dispose?
  split <;> rfl

@[simp] theorem nextMarker_clear (e : Editor) (id : OverlayId) :
    (e.clear id).nextMarker = e.nextMarker := by
  have hall : ∀ (hs : List Handle) (e : Editor),
      (hs.foldl release e).nextMarker = e.nextMarker := by
    intro hs
    induction hs with
    | nil => exact fun _ => rfl
    | cons h hs ih =>
      intro e
      rw [List.foldl_cons, ih, nextMarker_release]
  exact hall _ e

theorem nextMarker_annotate (e : Editor) (id : OverlayId) (a : Annotation) :
    e.nextMarker ≤ (e.annotate id a).1.nextMarker := by
  unfold annotate
  split
  · exact Nat.le_succ _
  · exact Nat.le_refl _

/-- A marker that is gone does not come back when a line is annotated. -/
theorem keeps_annotate_of_gone {e : Editor} {h : Handle} (hissued : h.number < e.nextMarker)
    (hgone : e.keeps h = false) (id : OverlayId) (a : Annotation) :
    (e.annotate id a).1.keeps h = false := by
  unfold annotate
  split
  · exact (keeps_createMarker (Nat.ne_of_lt hissued) _ _).trans hgone
  · exact hgone

theorem keeps_clear_of_gone {e : Editor} {h : Handle} (hgone : e.keeps h = false) (id : OverlayId) :
    (e.clear id).keeps h = false :=
  keeps_releaseAll_of_gone _ hgone

/-! ## Handles held -/

theorem overlay_of_le {e : Editor} {id : OverlayId} (h : e.overlays.length ≤ id) :
    e.overlay id = .onSurface 0 := by
  unfold overlay
  rw [List.getD_eq_getElem?_getD, List.getElem?_eq_none h]
  rfl

theorem setOverlay_of_le {e : Editor} {id : OverlayId} (h : e.overlays.length ≤ id) (o : Overlay) :
    e.setOverlay id o = e := by
  unfold setOverlay
  rw [List.set_eq_of_length_le h]

/-- Clearing leaves an overlay blank, be it in use or not. -/
theorem overlay_clear (e : Editor) (id : OverlayId) :
    (e.clear id).overlay id = .onSurface (e.overlay id).surface := by
  by_cases hid : id < e.overlays.length
  · exact overlay_clear_self hid
  · have hle := Nat.le_of_not_lt hid
    rw [overlay_of_le hle, overlay_of_le (by rwa [length_clear])]
    rfl

theorem isBlank_clear (e : Editor) (id : OverlayId) : ((e.clear id).overlay id).IsBlank := by
  rw [overlay_clear]
  exact ⟨rfl, rfl⟩

/-- Annotating adds at most one handle, to the overlay that is annotated, and drops none. -/
theorem held_annotate {e : Editor} (hwf : ∀ id, (e.overlay id).WF) (id : OverlayId) (a : Annotation)
    (j : OverlayId) :
    ((e.annotate id a).1.overlay j).held = (e.overlay j).held ∨
      ∃ m : Marker, (e.annotate id a).1.keeps = (e.createMarker (e.overlay id).surface m).1.keeps ∧
        (e.annotate id a).1.nextMarker = e.nextMarker + 1 ∧
        ((e.annotate id a).1.overlay j).held =
          (e.overlay j).held ++ [(e.createMarker (e.overlay id).surface m).2] := by
  by_cases hj : j = id
  case neg => exact .inl (by rw [overlay_annotate_ne hj])
  subst hj
  unfold annotate
  split
  case isFalse => exact .inl rfl
  next hacc =>
  by_cases hid : j < e.overlays.length
  · refine .inr ⟨markerFor (e.surface (e.overlay j).surface) a, rfl, rfl, ?_⟩
    have hfree : a.line ∉ (e.overlay j).handles.keys := by
      simp only [accepts, Bool.and_eq_true, Bool.not_eq_true'] at hacc
      rw [(hwf j).handles, ← Table.get?_eq_none_iff]
      simpa [Table.has] using hacc.1
    dsimp only
    rw [overlay_setOverlay_self (by rwa [length_createMarker])]
    simp only [Overlay.held, Table.put_of_not_mem hfree, List.map_append, List.map_cons,
      List.map_nil]
  · refine .inl ?_
    dsimp only
    rw [setOverlay_of_le (by rw [length_createMarker]; exact Nat.le_of_not_lt hid),
      overlay_createMarker]

/-! ## Tidy editors -/

/-- Every overlay is well-formed, every handle has a number that was given out, none that is broken
has a marker, and there are no other markers than those with such numbers. -/
structure Tidy (e : Editor) : Prop where
  wf : ∀ id, (e.overlay id).WF
  issued : ∀ {id : OverlayId} {h : Handle}, h ∈ (e.overlay id).held → h.number < e.nextMarker
  broken : ∀ {id : OverlayId} {h : Handle}, h ∈ (e.overlay id).held → h.broken = true →
    e.keeps h = false
  numbered : ∀ {h : Handle}, e.keeps h = true → h.number < e.nextMarker

namespace Tidy

theorem empty : Tidy Editor.empty := by
  refine ⟨fun _ => .onSurface _, ?_, ?_, ?_⟩
  · intro id h hmem
    cases hmem
  · intro id h hmem
    cases hmem
  · intro h hkeeps
    cases hkeeps

/-- The markers of a cleared overlay are off the surface. -/
theorem keeps_clear {e : Editor} (he : e.Tidy) {id : OverlayId} {h : Handle}
    (hmem : h ∈ (e.overlay id).held) : (e.clear id).keeps h = false :=
  keeps_releaseAll (fun _ hmem' => he.broken hmem') hmem

theorem clear {e : Editor} (he : e.Tidy) (id : OverlayId) : (e.clear id).Tidy := by
  have hheld : ∀ {j : OverlayId} {h : Handle}, h ∈ ((e.clear id).overlay j).held →
      h ∈ (e.overlay j).held := by
    intro j h hmem
    by_cases hj : j = id
    · subst hj
      rw [overlay_clear] at hmem
      cases hmem
    · rwa [overlay_clear_ne hj] at hmem
  refine ⟨?_, ?_, ?_, ?_⟩
  · intro j
    by_cases hj : j = id
    · subst hj
      rw [overlay_clear]
      exact .onSurface _
    · rw [overlay_clear_ne hj]
      exact he.wf j
  · intro j h hmem
    rw [nextMarker_clear]
    exact he.issued (hheld hmem)
  · intro j h hmem hb
    exact keeps_clear_of_gone (he.broken (hheld hmem) hb) id
  · intro h hkeeps
    rw [nextMarker_clear]
    refine he.numbered ?_
    by_contra hgone
    rw [keeps_clear_of_gone (by simpa using hgone)] at hkeeps
    cases hkeeps

/-- A new marker is the only one that was not there before; where its line is broken there is none.
-/
theorem keeps_createMarker_self {e : Editor} (he : e.Tidy) (id : SurfaceId) (m : Marker)
    (hb : (e.createMarker id m).2.broken = true) :
    (e.createMarker id m).1.keeps (e.createMarker id m).2 = false := by
  have hb' : (e.surface id).brokenLines.contains m.line = true := hb
  have hsame : (e.createMarker id m).1.keeps = (e.setSurface id (e.surface id)).keeps := by
    unfold createMarker
    simp only [hb', if_true]
    rfl
  have hold : e.keeps (e.createMarker id m).2 = false := by
    by_contra hkept
    exact Nat.lt_irrefl _ (he.numbered (Bool.of_not_eq_false hkept))
  rw [hsame, keeps_setSurface]
  split
  · exact hold
  · exact hold

theorem annotate {e : Editor} (he : e.Tidy) (id : OverlayId) (a : Annotation) :
    (e.annotate id a).1.Tidy := by
  have hwf : ∀ j, ((e.annotate id a).1.overlay j).WF := by
    intro j
    by_cases hj : j = id
    case neg =>
      rw [overlay_annotate_ne hj]
      exact he.wf j
    subst hj
    by_cases hid : j < e.overlays.length
    · exact wf_annotate hid (he.wf j) a
    · rw [overlay_of_le (by rw [length_annotate]; exact Nat.le_of_not_lt hid)]
      exact .onSurface _
  have hnumbered : ∀ {h : Handle}, (e.annotate id a).1.keeps h = true →
      h.number < (e.annotate id a).1.nextMarker := by
    intro h hkeeps
    unfold Editor.annotate at hkeeps ⊢
    split at hkeeps
    · next hacc =>
      rw [if_pos hacc]
      by_cases hnew : h.number = e.nextMarker
      · rw [hnew]
        exact Nat.lt_succ_self _
      · exact Nat.lt_succ_of_lt (he.numbered ((keeps_createMarker hnew _ _).symm.trans hkeeps))
    · next hacc =>
      rw [if_neg hacc]
      exact he.numbered hkeeps
  refine ⟨hwf, ?_, ?_, hnumbered⟩
  · intro j h hmem
    rcases held_annotate he.wf id a j with hsame | ⟨m, -, hnext, hnew⟩
    · exact Nat.lt_of_lt_of_le (he.issued (hsame ▸ hmem)) (nextMarker_annotate e id a)
    · rw [hnext]
      rw [hnew, List.mem_append, List.mem_singleton] at hmem
      rcases hmem with hold | rfl
      · exact Nat.lt_succ_of_lt (he.issued hold)
      · exact Nat.lt_succ_self _
  · intro j h hmem hb
    rcases held_annotate he.wf id a j with hsame | ⟨m, hkeeps, -, hnew⟩
    · have hold : h ∈ (e.overlay j).held := hsame ▸ hmem
      exact keeps_annotate_of_gone (he.issued hold) (he.broken hold hb) id a
    · rw [hnew, List.mem_append, List.mem_singleton] at hmem
      rcases hmem with hold | rfl
      · exact keeps_annotate_of_gone (he.issued hold) (he.broken hold hb) id a
      · rw [hkeeps]
        exact he.keeps_createMarker_self _ m hb

theorem annotateAll {e : Editor} (he : e.Tidy) (id : OverlayId) (as : List Annotation) :
    (e.annotateAll id as).Tidy := by
  induction as generalizing e with
  | nil => exact he
  | cons a as ih => exact ih (he.annotate id a)

theorem addSurface {e : Editor} (he : e.Tidy) (lines : List String) (brokenLines : List Int) :
    (e.addSurface ⟨lines, brokenLines, []⟩).1.Tidy := by
  have hkeeps : ∀ h, (e.addSurface ⟨lines, brokenLines, []⟩).1.keeps h = e.keeps h := by
    intro h
    unfold keeps
    rw [surface_addSurface]
    split
    · next heq =>
      rw [heq, surface_of_le (Nat.le_refl _)]
      rfl
    · rfl
  refine ⟨he.wf, he.issued, ?_, fun hkept => he.numbered ((hkeeps _).symm.trans hkept)⟩
  intro id h hmem hb
  exact (hkeeps h).trans (he.broken hmem hb)

theorem addOverlay {e : Editor} (he : e.Tidy) (id : SurfaceId) : (e.addOverlay id).1.Tidy := by
  have hheld : ∀ {j : OverlayId} {h : Handle}, h ∈ ((e.addOverlay id).1.overlay j).held →
      h ∈ (e.overlay j).held := by
    intro j h hmem
    rw [overlay_addOverlay] at hmem
    split at hmem
    · cases hmem
    · exact hmem
  refine ⟨?_, fun hmem => he.issued (hheld hmem), fun hmem => he.broken (hheld hmem), he.numbered⟩
  intro j
  rw [overlay_addOverlay]
  split
  · exact .onSurface _
  · exact he.wf j

/-- Which overlay a document has does not matter. -/
theorem congr {e e' : Editor} (he : e.Tidy) (hsurfaces : e'.surfaces = e.surfaces)
    (hoverlays : e'.overlays = e.overlays) (hnext : e'.nextMarker = e.nextMarker) : e'.Tidy := by
  have hoverlay : e'.overlay = e.overlay := by
    unfold overlay
    rw [hoverlays]
  have hkeeps : e'.keeps = e.keeps := by
    unfold keeps surface
    rw [hsurfaces]
  refine ⟨?_, ?_, ?_, ?_⟩
  · rw [hoverlay]
    exact he.wf
  · rw [hoverlay, hnext]
    exact he.issued
  · rw [hoverlay, hkeeps]
    exact he.broken
  · rw [hkeeps, hnext]
    exact he.numbered

end Tidy

/-! ## Markers accounted for -/

/-- The handle is still held by the overlay, or its marker is gone for good. -/
def Accounts (e : Editor) (id : OverlayId) (h : Handle) : Prop :=
  h ∈ (e.overlay id).held ∨ (h.number < e.nextMarker ∧ e.keeps h = false)

namespace Accounts

variable {e : Editor} {id : OverlayId} {h : Handle}

theorem clear (hacc : e.Accounts id h) (he : e.Tidy) (j : OverlayId) :
    (e.clear j).Accounts id h := by
  rcases hacc with hheld | ⟨hissued, hgone⟩
  · by_cases hj : id = j
    · subst hj
      exact .inr ⟨by rw [nextMarker_clear]; exact he.issued hheld, he.keeps_clear hheld⟩
    · exact .inl (by rwa [overlay_clear_ne hj])
  · exact .inr ⟨by rwa [nextMarker_clear], keeps_clear_of_gone hgone j⟩

theorem annotate (hacc : e.Accounts id h) (he : e.Tidy) (j : OverlayId) (a : Annotation) :
    (e.annotate j a).1.Accounts id h := by
  rcases hacc with hheld | ⟨hissued, hgone⟩
  · rcases held_annotate he.wf j a id with hsame | ⟨m, -, -, hnew⟩
    · exact .inl (hsame ▸ hheld)
    · exact .inl (hnew ▸ List.mem_append_left _ hheld)
  · exact .inr ⟨Nat.lt_of_lt_of_le hissued (nextMarker_annotate e j a),
      keeps_annotate_of_gone hissued hgone j a⟩

theorem annotateAll (hacc : e.Accounts id h) (he : e.Tidy) (j : OverlayId) (as : List Annotation) :
    (e.annotateAll j as).Accounts id h := by
  induction as generalizing e with
  | nil => exact hacc
  | cons a as ih => exact ih (hacc.annotate he j a) (he.annotate j a)

end Accounts

end Editor

end VarsAdvisor

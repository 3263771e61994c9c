import VarsAdvisor.Proofs.Editor.Notes

/-!
# Whose markers a surface shows

In a balanced editor (`Editor.Balanced`) a surface shows the markers of the overlays that are on it
and the loose markers, which belong to no overlay, and nothing else. Every operation keeps the
balance. Clearing an overlay removes its own markers and leaves all others
(`Balanced.markers_clear_perm`).
-/

namespace VarsAdvisor.Editor

/-! ## Single markers in tidy editors -/

namespace Tidy

theorem createMarker {e : Editor} (he : e.Tidy) (id : SurfaceId) (m : Marker) :
    (e.createMarker id m).1.Tidy := by
  refine ⟨he.wf, ?_, ?_, ?_⟩
  · intro j h hmem
    exact Nat.lt_succ_of_lt (he.issued hmem)
  · intro j h hmem hb
    have hne : h.number ≠ e.nextMarker := Nat.ne_of_lt (he.issued hmem)
    rw [keeps_createMarker hne]
    exact he.broken hmem hb
  · intro h hkeeps
    by_cases hnew : h.number = e.nextMarker
    · rw [hnew]
      exact Nat.lt_succ_self _
    · rw [keeps_createMarker hnew] at hkeeps
      exact Nat.lt_succ_of_lt (he.numbered hkeeps)

theorem release {e : Editor} (he : e.Tidy) (h : Handle) : (e.release h).Tidy := by
  refine ⟨?_, ?_, ?_, ?_⟩
  · intro j
    rw [overlay_release]
    exact he.wf j
  · intro j h' hmem
    rw [overlay_release] at hmem
    rw [nextMarker_release]
    exact he.issued hmem
  · intro j h' hmem hb
    rw [overlay_release] at hmem
    exact keeps_release_of_gone (he.broken hmem hb) h
  · intro h' hkeeps
    rw [nextMarker_release]
    refine he.numbered ?_
    by_contra hgone
    rw [keeps_release_of_gone (by simpa using hgone)] at hkeeps
    cases hkeeps

end Tidy

/-! ## Balanced editors -/

/-- Annotated lines exist, handles are of markers on the overlay's own surface, and each surface
shows the loose markers and those of the overlays on it. -/
structure Balanced (e : Editor) (loose : SurfaceId → Table Nat Marker) : Prop where
  tidy : e.Tidy
  line : ∀ {id : OverlayId} {l : Int} {a : Annotation},
    (e.overlay id).annotations.get? l = some a → (e.surfaceOf id).hasLine l = true
  home : ∀ {id : OverlayId} {h : Handle}, h ∈ (e.overlay id).held →
    h.surface = (e.overlay id).surface
  nodup : ∀ j, (e.surface j).markers.keys.Nodup
  markers : ∀ j, (e.surface j).markers.Perm (loose j ++ e.notesOn j)

namespace Balanced

variable {e : Editor} {loose : SurfaceId → Table Nat Marker}

theorem empty : Balanced Editor.empty fun _ => [] := by
  refine ⟨.empty, ?_, ?_, fun _ => List.nodup_nil, fun _ => .refl _⟩
  · intro id l a h
    cases h
  · intro id h hmem
    cases hmem

/-- The markers of a surface split into the loose ones, those of one overlay, and the others'. -/
theorem split (he : e.Balanced loose) {id : OverlayId} (hid : id < e.overlays.length)
    (j : SurfaceId) : (e.surface j).markers.Perm
      (loose j ++ ((e.overlay id).notesAt j (e.surface j) ++ e.notesBeside id j)) :=
  (he.markers j).trans ((notesOn_perm hid j).append_left _)

theorem nodup_concat (he : e.Balanced loose) (j : SurfaceId) (p : Prop) [Decidable p] (m : Marker) :
    ((e.surface j).markers ++ if p then [(e.nextMarker, m)] else []).keys.Nodup := by
  split
  · rw [← Table.put_of_not_mem (he.tidy.nextMarker_not_mem j)]
    exact Table.nodup_keys_put (he.nodup j) _ _
  · rw [List.append_nil]
    exact he.nodup j

/-- Annotating a line adds the marker of the annotation to those of its overlay. -/
theorem annotate (he : e.Balanced loose) {id : OverlayId} (hid : id < e.overlays.length)
    (a : Annotation) : (e.annotate id a).1.Balanced loose := by
  by_cases hacc : e.accepts id a.line = true
  case neg =>
    rw [annotate_of_not_accepts hacc]
    exact he
  refine ⟨he.tidy.annotate id a, ?_, ?_, ?_, ?_⟩
  · intro j l b hb
    rw [hasLine_annotate hid]
    by_cases hj : j = id
    · subst hj
      rw [get?_annotate hid] at hb
      rcases Option.or_eq_some_iff.1 hb with hold | ⟨-, hnew⟩
      · exact he.line hold
      · split at hnew
        · next h => exact h.1
        · cases hnew
    · rw [overlay_annotate_ne hj] at hb
      exact he.line hb
  · intro j h hmem
    by_cases hj : j = id
    · subst hj
      have hfree := (accepts_iff.1 hacc).1
      rw [← (he.tidy.wf j).handles] at hfree
      rw [surface_overlay_annotate hid]
      rw [annotate_of_accepts hacc] at hmem
      dsimp only at hmem
      rw [overlay_setOverlay_self (by rwa [length_createMarker]), Overlay.held,
        Table.put_of_not_mem hfree, List.map_append, List.mem_append] at hmem
      rcases hmem with hold | hnew
      · exact he.home hold
      · obtain rfl := List.mem_singleton.1 hnew
        rfl
    · rw [overlay_annotate_ne hj] at hmem ⊢
      exact he.home hmem
  · intro j
    rw [markers_annotate he.tidy hacc]
    exact he.nodup_concat j _ _
  · intro j
    rw [markers_annotate he.tidy hacc]
    refine ((he.markers j).append_right _).trans ?_
    rw [List.append_assoc]
    exact (notesOn_annotate_perm hid hacc j).symm.append_left _

/-- A marker that an overlay's handle reaches is one of the overlay's. -/
theorem mem_keys_of_reaches (he : e.Balanced loose) {id : OverlayId} {j : SurfaceId} {n : Nat}
    (h : (e.overlay id).held.any (·.reaches j n) = true) :
    n ∈ ((e.overlay id).notesAt j (e.surface j)).keys := by
  obtain ⟨handle, hmem, hreaches⟩ := List.any_eq_true.1 h
  simp only [Handle.reaches, Bool.and_eq_true, decide_eq_true_eq, Bool.not_eq_true'] at hreaches
  obtain ⟨⟨rfl, hb⟩, hn⟩ := hreaches
  rw [Overlay.notesAt, if_pos (he.home hmem).symm, Overlay.mem_keys_notes (he.tidy.wf id)]
  exact ⟨handle, hmem, hb, hn⟩

/-- The markers of a cleared overlay are gone from its surface, and all others are left. -/
theorem markers_clear_perm (he : e.Balanced loose) {id : OverlayId} (hid : id < e.overlays.length)
    (j : SurfaceId) :
    ((e.clear id).surface j).markers.Perm (loose j ++ e.notesBeside id j) := by
  let own := (e.overlay id).notesAt j (e.surface j)
  let reached := fun p : Nat × Marker => (e.overlay id).held.any (·.reaches j p.1)
  have hnodup : (loose j ++ (own ++ e.notesBeside id j)).keys.Nodup :=
    ((he.split hid j).map Prod.fst).nodup_iff.1 (he.nodup j)
  simp only [Table.keys, List.map_append, List.nodup_append] at hnodup
  obtain ⟨-, ⟨-, -, hbeside⟩, hloose⟩ := hnodup
  have hkeepLoose : (loose j).filter (fun p => !reached p) = loose j := by
    refine List.filter_eq_self.2 fun p hp => ?_
    rw [Bool.not_eq_true']
    by_contra hreached
    have hown := he.mem_keys_of_reaches (Bool.of_not_eq_false hreached)
    exact hloose _ (List.mem_map_of_mem hp) _ (List.mem_append_left _ hown) rfl
  have hkeepBeside : (e.notesBeside id j).filter (fun p => !reached p) = e.notesBeside id j := by
    refine List.filter_eq_self.2 fun p hp => ?_
    rw [Bool.not_eq_true']
    by_contra hreached
    have hown := he.mem_keys_of_reaches (Bool.of_not_eq_false hreached)
    exact hbeside _ hown _ (List.mem_map_of_mem hp) rfl
  have hdropOwn : own.filter (fun p => !reached p) = [] := by
    refine List.filter_eq_nil_iff.2 fun p hp hkept => ?_
    have hon : (e.overlay id).surface = j := by
      by_contra hne
      rw [show own = [] from Overlay.notesAt_ne hne _] at hp
      cases hp
    subst hon
    have hnote : p.1 ∈ ((e.overlay id).notes (e.surfaceOf id)).keys := by
      rw [← Overlay.notesAt_self]
      exact List.mem_map_of_mem hp
    obtain ⟨h, hmem, hb, hn⟩ := (Overlay.mem_keys_notes (he.tidy.wf id) _ _).1 hnote
    have hreached : reached p = true := by
      refine List.any_eq_true.2 ⟨h, hmem, ?_⟩
      simp [Handle.reaches, he.home hmem, hb, hn]
    rw [hreached] at hkept
    cases hkept
  rw [markers_clear]
  refine ((he.split hid j).filter _).trans ?_
  rw [List.filter_append, List.filter_append, hkeepLoose, hkeepBeside, hdropOwn, List.nil_append]

theorem clear (he : e.Balanced loose) {id : OverlayId} (hid : id < e.overlays.length) :
    (e.clear id).Balanced loose := by
  refine ⟨he.tidy.clear id, ?_, ?_, ?_, ?_⟩
  · intro j l a ha
    by_cases hj : j = id
    · subst hj
      rw [overlay_clear] at ha
      cases ha
    · have hlines : ((e.clear id).surfaceOf j).lines = (e.surfaceOf j).lines := by
        unfold surfaceOf
        rw [overlay_clear_ne hj]
        exact lines_clear e id _
      rw [overlay_clear_ne hj] at ha
      rw [hasLine_congr hlines]
      exact he.line ha
  · intro j h hmem
    by_cases hj : j = id
    · subst hj
      rw [overlay_clear] at hmem
      cases hmem
    · rw [overlay_clear_ne hj] at hmem ⊢
      exact he.home hmem
  · intro j
    rw [markers_clear]
    exact (List.filter_sublist.map _).nodup (he.nodup j)
  · intro j
    refine (he.markers_clear_perm hid j).trans (List.Perm.append_left _ ?_)
    have hoverlays : ((e.overlay id).held.foldl release e).overlays = e.overlays :=
      overlays_releaseAll _ e
    have hset := notesOn_setOverlay_perm (e := (e.overlay id).held.foldl release e)
      (by rwa [hoverlays]) (.onSurface (e.overlay id).surface) j
    rw [Overlay.notesAt_onSurface, List.nil_append,
      notesBeside_congr hoverlays id (lines_releaseAll _ e j)] at hset
    exact hset.symm

/-! ### Loose markers -/

/-- A marker that is made on a surface directly is loose. -/
theorem createMarker (he : e.Balanced loose) {id : SurfaceId} (hid : id < e.surfaces.length)
    (m : Marker) :
    (e.createMarker id m).1.Balanced fun j => loose j ++
      if (e.createMarker id m).2.reaches j e.nextMarker then [(e.nextMarker, m)] else [] := by
  have hlines : ∀ j, ((e.createMarker id m).1.surface j).lines = (e.surface j).lines :=
    lines_createMarker e id m
  refine ⟨he.tidy.createMarker id m, ?_, he.home, ?_, ?_⟩
  · intro j l a ha
    exact (hasLine_congr (hlines _) l).trans (he.line ha)
  · intro j
    rw [markers_createMarker he.tidy hid]
    exact he.nodup_concat j _ _
  · intro j
    have hoverlays : (e.createMarker id m).1.overlays = e.overlays := rfl
    rw [markers_createMarker he.tidy hid, notesOn_congr hoverlays (hlines j)]
    refine ((he.markers j).append_right _).trans ?_
    rw [List.append_assoc, List.append_assoc]
    exact List.perm_append_comm.append_left _

/-- Disposing of a handle that no overlay holds takes a loose marker off, if any. -/
theorem release (he : e.Balanced loose) {h : Handle}
    (hloose : ∀ id, ∀ h' ∈ (e.overlay id).held, h'.number ≠ h.number) :
    (e.release h).Balanced fun j => (loose j).filter fun p => !h.reaches j p.1 := by
  have hlines : ∀ j, ((e.release h).surface j).lines = (e.surface j).lines := lines_release e h
  refine ⟨he.tidy.release h, ?_, ?_, ?_, ?_⟩
  · intro j l a ha
    rw [overlay_release] at ha
    unfold surfaceOf
    rw [overlay_release, hasLine_congr (hlines _)]
    exact he.line ha
  · intro j h' hmem
    rw [overlay_release] at hmem ⊢
    exact he.home hmem
  · intro j
    rw [markers_release]
    exact (List.filter_sublist.map _).nodup (he.nodup j)
  · intro j
    have hkeep : (e.notesOn j).filter (fun p => !h.reaches j p.1) = e.notesOn j := by
      refine List.filter_eq_self.2 fun p hp => ?_
      obtain ⟨id, h', hmem, -, hn⟩ := exists_held_of_mem_notesOn he.tidy (List.mem_map_of_mem hp)
      have hne : h.number ≠ p.1 := fun heq => hloose id h' hmem (hn.trans heq.symm)
      simp [Handle.reaches, hne]
    rw [markers_release, notesOn_congr (overlays_release e h) (hlines j)]
    refine ((he.markers j).filter _).trans ?_
    rw [List.filter_append, hkeep]

/-! ### Surfaces and overlays -/

/-- Overlays have no markers on a surface that is not in use, nor on the one that takes its place.
-/
theorem notesAt_of_le (he : e.Balanced loose) {j : SurfaceId} (hj : e.surfaces.length ≤ j)
    (s : Surface) : e.overlays.flatMap (·.notesAt j s) = [] := by
  refine List.flatMap_eq_nil_iff.2 fun o ho => ?_
  obtain ⟨id, hid, rfl⟩ := List.getElem_of_mem ho
  rw [← overlay_eq_getElem hid]
  by_cases hon : (e.overlay id).surface = j
  · have hempty : (e.overlay id).annotations = [] := by
      refine Table.eq_nil_of_get? fun l => ?_
      rw [Option.eq_none_iff_forall_ne_some]
      intro a ha
      have hlt := surface_lt (he.line ha)
      rw [hon] at hlt
      exact Nat.not_lt.2 hj hlt
    simp [Overlay.notesAt, Overlay.notes, hempty]
  · exact Overlay.notesAt_ne hon s

theorem addSurface (he : e.Balanced loose) (lines : List String) (brokenLines : List Int) :
    (e.addSurface ⟨lines, brokenLines, []⟩).1.Balanced loose := by
  have hsurface := surface_addSurface e ⟨lines, brokenLines, []⟩
  have hold : ∀ {j}, j ≠ e.surfaces.length →
      (e.addSurface ⟨lines, brokenLines, []⟩).1.surface j = e.surface j := by
    intro j hj
    rw [hsurface, if_neg hj]
  refine ⟨he.tidy.addSurface lines brokenLines, ?_, he.home, ?_, ?_⟩
  · intro id l a ha
    have hline := he.line ha
    unfold surfaceOf
    rw [hold]
    · exact hline
    · exact Nat.ne_of_lt (surface_lt hline)
  · intro j
    rw [hsurface]
    split
    · exact List.nodup_nil
    · exact he.nodup j
  · intro j
    by_cases hj : j = e.surfaces.length
    · subst hj
      have hnone := he.markers e.surfaces.length
      rw [surface_of_le (Nat.le_refl _)] at hnone
      have hloose := (List.append_eq_nil_iff.1 (List.nil_perm.1 hnone)).1
      have hnotes := he.notesAt_of_le (Nat.le_refl _) ⟨lines, brokenLines, []⟩
      unfold notesOn
      rw [hsurface, if_pos rfl, hloose]
      exact .of_eq hnotes.symm
    · unfold notesOn
      rw [hold hj]
      exact he.markers j

/-- Which lines are broken matters to new markers only. -/
theorem setBrokenLines (he : e.Balanced loose) (id : SurfaceId) (lines : List Int) :
    (e.setSurface id { e.surface id with brokenLines := lines }).Balanced loose := by
  let s : Surface := { e.surface id with brokenLines := lines }
  have hlines : ∀ j, ((e.setSurface id s).surface j).lines = (e.surface j).lines :=
    surface_setSurface_congr (f := Surface.lines) rfl
  have hmarkers : ∀ j, ((e.setSurface id s).surface j).markers = (e.surface j).markers := by
    intro j
    by_cases hid : id < e.surfaces.length
    · rw [markers_setSurface hid]
      split
      · next hj => rw [hj]
      · rfl
    · rw [setSurface_of_le (Nat.le_of_not_lt hid)]
  have hkeeps : ∀ h, (e.setSurface id s).keeps h = e.keeps h := by
    intro h
    unfold keeps
    rw [hmarkers]
  have htidy : (e.setSurface id s).Tidy := by
    refine ⟨he.tidy.wf, he.tidy.issued, ?_, ?_⟩
    · intro j h hmem hb
      exact (hkeeps h).trans (he.tidy.broken hmem hb)
    · intro h hkept
      exact he.tidy.numbered ((hkeeps h).symm.trans hkept)
  refine ⟨htidy, ?_, he.home, ?_, ?_⟩
  · intro j l a ha
    exact (hasLine_congr (hlines _) l).trans (he.line ha)
  · intro j
    rw [hmarkers]
    exact he.nodup j
  · intro j
    have hoverlays : (e.setSurface id s).overlays = e.overlays := rfl
    rw [hmarkers, notesOn_congr hoverlays (hlines j)]
    exact he.markers j

theorem addOverlay (he : e.Balanced loose) (id : SurfaceId) :
    (e.addOverlay id).1.Balanced loose := by
  refine ⟨he.tidy.addOverlay id, ?_, ?_, he.nodup, ?_⟩
  · intro j l a ha
    unfold surfaceOf
    rw [overlay_addOverlay] at ha ⊢
    split at ha
    · cases ha
    · next hj =>
      rw [if_neg hj]
      exact he.line ha
  · intro j h hmem
    rw [overlay_addOverlay] at hmem ⊢
    split at hmem
    · cases hmem
    · next hj =>
      rw [if_neg hj]
      exact he.home hmem
  · intro j
    have hnotes : (e.addOverlay id).1.notesOn j = e.notesOn j := by
      unfold notesOn Editor.addOverlay
      rw [List.flatMap_append, List.flatMap_singleton, Overlay.notesAt_onSurface, List.append_nil]
      rfl
    rw [hnotes]
    exact he.markers j

end Balanced

end VarsAdvisor.Editor

import VarsAdvisor.Proofs.Editor.Registry

/-!
# What surfaces show

A document that is alone on its surface is shown there as it is: the surface shows one marker for
each annotation of the document's overlay, in the same order (`Alone.shown`). Documents that are
opened on new surfaces stay apart (`Apart`), and what is done with one of them does not change the
view of another (`Apart.view?_run_other`).
-/

namespace VarsAdvisor.Editor

variable {e e' : Editor} {document other : String} {id : OverlayId}

/-! ## Documents alone on their surfaces -/

/-- A document is open with an overlay, and no other document is on the overlay's surface. -/
structure Alone (e : Editor) (document : String) (id : OverlayId) : Prop where
  isOpen : e.overlayOf? document = some id
  alone : ∀ {other : String} {j : OverlayId}, e.overlayOf? other = some j →
    (e.overlay j).surface = (e.overlay id).surface → other = document

theorem Alone.documentMarkers (h : e.Alone document id) (he : e.Registered) :
    e.documentMarkers (e.overlay id).surface =
      (e.overlay id).annotations.map fun (_, a) => markerFor (e.surfaceOf id) a := by
  -- The documents before and after this one in the table have nothing on its surface.
  have hmem : (document, id) ∈ e.documents := Table.mem_of_get? h.isOpen
  obtain ⟨before, after, hdocuments⟩ := List.append_of_mem hmem
  have hnil : ∀ p ∈ e.documents, p.1 ≠ document →
      (e.overlay p.2).surface ≠ (e.overlay id).surface :=
    fun p hp hne hsame => hne (h.alone ((Table.mem_iff_get? he.nodup).1 hp) hsame)
  have hkeys := he.nodup
  unfold Table.keys at hkeys
  rw [hdocuments, List.map_append, List.map_cons, List.nodup_middle, List.nodup_cons,
    List.mem_append, not_or] at hkeys
  have hbefore : ∀ p ∈ before, (e.overlay p.2).surface ≠ (e.overlay id).surface := by
    intro p hp
    refine hnil p (hdocuments ▸ List.mem_append_left _ hp) ?_
    intro hkey
    exact hkeys.1.1 (hkey ▸ List.mem_map_of_mem (f := (·.1)) hp)
  have hafter : ∀ p ∈ after, (e.overlay p.2).surface ≠ (e.overlay id).surface := by
    intro p hp
    refine hnil p (hdocuments ▸ List.mem_append_right _ (List.mem_cons_of_mem _ hp)) ?_
    intro hkey
    exact hkeys.1.2 (hkey ▸ List.mem_map_of_mem (f := (·.1)) hp)
  unfold Editor.documentMarkers
  rw [hdocuments, List.flatMap_append, List.flatMap_cons,
    List.flatMap_eq_nil_iff.2 fun p hp => if_neg (hbefore p hp),
    List.flatMap_eq_nil_iff.2 fun p hp => if_neg (hafter p hp)]
  simp [surfaceOf]

/-- Sorting by line finds the order of a list in which no two lines are the same. -/
theorem mergeSort_eq_of_perm {α : Type} {line : α → Int} {xs ys : List α} (hperm : xs.Perm ys)
    (hlt : ys.Pairwise (line · < line ·)) :
    xs.mergeSort (fun a b => decide (line a ≤ line b)) = ys := by
  have hsorted : (xs.mergeSort fun a b => decide (line a ≤ line b)).Pairwise
      fun a b => decide (line a ≤ line b) = true := by
    apply List.pairwise_mergeSort
    · intro a b c hab hbc
      simp only [decide_eq_true_eq] at hab hbc ⊢
      exact Int.le_trans hab hbc
    · intro a b
      simp only [Bool.or_eq_true, decide_eq_true_eq]
      exact Int.le_total _ _
  -- Both lists are in order, and items on the same line are the same, so the order is unique.
  have hall := (List.mergeSort_perm xs fun a b => decide (line a ≤ line b)).trans hperm
  have hinj : (ys.map line).Nodup := List.pairwise_map.2 (hlt.imp Int.ne_of_lt)
  refine List.Perm.eq_of_pairwise ?_ hsorted (hlt.imp fun h => decide_eq_true (Int.le_of_lt h)) hall
  intro a b ha hb hab hba
  have hline := Int.le_antisymm (of_decide_eq_true hab) (of_decide_eq_true hba)
  exact List.inj_on_of_nodup_map hinj (hall.mem_iff.1 ha) hb hline

/-- A surface whose markers are those of one overlay shows them in the order of the lines. -/
theorem shown_of_perm (hwf : (e.overlay id).WF)
    (hperm : ((e.surfaceOf id).markers.map (·.2)).Perm
      ((e.overlay id).annotations.map fun (_, a) => markerFor (e.surfaceOf id) a)) :
    (e.surfaceOf id).shown = (e.overlay id).sorted.map (markerFor (e.surfaceOf id)) := by
  have hsorted := (List.mergeSort_perm ((e.overlay id).annotations.map (·.2))
    fun a b => decide (a.line ≤ b.line)).map (markerFor (e.surfaceOf id))
  rw [List.map_map] at hsorted
  exact mergeSort_eq_of_perm (hperm.trans hsorted.symm) (List.pairwise_map.2 hwf.sorted_lt)

/-- **What a surface shows of a document that is alone on it**: for each annotation its marker, in
the order of the lines. -/
theorem Alone.shown (h : e.Alone document id) (he : e.Registered) :
    (e.surfaceOf id).shown = (e.overlay id).sorted.map (markerFor (e.surfaceOf id)) := by
  refine shown_of_perm (he.balanced.tidy.wf id) ((he.markers_perm (e.overlay id).surface).trans ?_)
  rw [h.documentMarkers he]

/-! ## Lines of surfaces -/

theorem bare_vacate (e : Editor) (document : String) (j : SurfaceId) :
    ((e.vacate document).surface j).bare = (e.surface j).bare := by
  unfold vacate
  split
  · rfl
  · exact bare_clear e _ j

theorem length_surfaces_vacate (e : Editor) (document : String) :
    (e.vacate document).surfaces.length = e.surfaces.length := by
  unfold vacate
  split
  · rfl
  · exact length_surfaces_clear e _

theorem bare_openDocument (e : Editor) (document : String) (id j : SurfaceId) :
    ((e.openDocument document id).1.surface j).bare = (e.surface j).bare := by
  rcases openDocument_cases e document id with ⟨current, -, -, hopened⟩ | hopened
  · rw [hopened]
  · rw [hopened]
    exact bare_vacate e document j

theorem length_surfaces_openDocument (e : Editor) (document : String) (id : SurfaceId) :
    (e.openDocument document id).1.surfaces.length = e.surfaces.length := by
  rcases openDocument_cases e document id with ⟨current, -, -, hopened⟩ | hopened
  · rw [hopened]
  · rw [hopened]
    exact length_surfaces_vacate e document

/-- An action changes of a surface in use no more than its markers. -/
theorem bare_act (e : Editor) (action : Action) {j : SurfaceId} (hj : j < e.surfaces.length) :
    j < (e.act action).surfaces.length ∧ ((e.act action).surface j).bare = (e.surface j).bare := by
  cases action with
  | addSurface lines =>
    have hlength : (e.addSurface (.ofLines lines)).1.surfaces.length = e.surfaces.length + 1 :=
      List.length_append
    refine ⟨hlength ▸ Nat.lt_succ_of_lt hj, ?_⟩
    rw [act, surface_addSurface, if_neg (Nat.ne_of_lt hj)]
  | openDocument document id =>
    simp only [act]
    split
    · exact ⟨(length_surfaces_openDocument e document id).symm ▸ hj, bare_openDocument e _ _ _⟩
    · exact ⟨hj, rfl⟩
  | closeDocument document =>
    simp only [act]
    rw [closeDocument_eq]
    exact ⟨(length_surfaces_vacate e document).symm ▸ hj, bare_vacate e document j⟩
  | lookUp document => exact ⟨hj, rfl⟩
  | annotate document a =>
    simp only [act]
    split
    · next id hid =>
      exact ⟨(length_surfaces_annotate e id a).symm ▸ hj, bare_annotate e id a j⟩
    · exact ⟨hj, rfl⟩
  | clear document =>
    exact ⟨(length_surfaces_vacate e document).symm ▸ hj, bare_vacate e document j⟩

theorem annotateAll_eq_run (hid : e.overlayOf? document = some id) (as : List Annotation) :
    e.annotateAll id as = e.run (as.map (.annotate document)) := by
  induction as generalizing e with
  | nil => rfl
  | cons a as ih =>
    have hact : e.act (.annotate document a) = (e.annotate id a).1 := by
      simp only [act, hid]
    have hid' : (e.annotate id a).1.overlayOf? document = some id := by
      rwa [overlayOf?_annotate]
    rw [annotateAll_cons, ih hid', ← hact]
    rfl

/-- What actions about other documents leave of a document. -/
theorem Registered.run_other (he : e.Registered) {actions : List Action}
    (hother : ∀ action ∈ actions, action.document? ≠ some other) :
    (e.run actions).overlayOf? other = e.overlayOf? other ∧
      ∀ id, e.overlayOf? other = some id → (e.run actions).overlay id = e.overlay id ∧
        ((e.run actions).surfaceOf id).bare = (e.surfaceOf id).bare := by
  induction actions generalizing e with
  | nil => exact ⟨rfl, fun id _ => ⟨rfl, rfl⟩⟩
  | cons action rest ih =>
    rw [List.forall_mem_cons] at hother
    obtain ⟨hlookup, hoverlay⟩ := he.act_other hother.1
    obtain ⟨hlookup', hrest⟩ := ih (he.act action) hother.2
    refine ⟨hlookup'.trans hlookup, fun id hid => ?_⟩
    obtain ⟨hoverlay', hbare⟩ := hrest id (hlookup.trans hid)
    have hsurface : ((e.act action).surfaceOf id).bare = (e.surfaceOf id).bare := by
      unfold surfaceOf
      rw [hoverlay id hid]
      exact (bare_act e action (he.bound hid)).2
    exact ⟨hoverlay'.trans (hoverlay id hid), hbare.trans hsurface⟩

/-! ## Documents on new surfaces -/

/-- Opens a document on a new surface. -/
def present (e : Editor) (document : String) (lines : List String) : Editor × OverlayId :=
  (e.addSurface (.ofLines lines)).1.openDocument document e.surfaces.length

theorem present_eq_run (e : Editor) (document : String) (lines : List String) :
    (e.present document lines).1 =
      e.run [.addSurface lines, .openDocument document e.surfaces.length] := by
  have hlength : (e.addSurface (.ofLines lines)).1.surfaces.length = e.surfaces.length + 1 :=
    List.length_append
  have hopen : (e.addSurface (.ofLines lines)).1.act (.openDocument document e.surfaces.length) =
      (e.present document lines).1 := if_pos (hlength ▸ Nat.lt_succ_self _)
  exact hopen.symm

/-- Every open document is on a surface in use. -/
def Placed (e : Editor) : Prop :=
  ∀ ⦃document : String⦄ ⦃id : OverlayId⦄, e.overlayOf? document = some id →
    (e.overlay id).surface < e.surfaces.length

namespace Placed

theorem present_eq (he : e.Placed) (document : String) (lines : List String) :
    e.present document lines =
      (((e.addSurface (.ofLines lines)).1.vacate document).enrol document e.surfaces.length,
        e.overlays.length) := by
  refine openDocument_other (e := (e.addSurface (.ofLines lines)).1) fun current h hsame => ?_
  exact absurd hsame (Nat.ne_of_lt (he h))

theorem overlay_present (he : e.Placed) (document : String) (lines : List String) :
    (e.present document lines).1.overlay (e.present document lines).2 =
      .onSurface e.surfaces.length := by
  rw [he.present_eq, overlay_enrol, length_vacate]
  exact if_pos rfl

/-- A document that is opened gets a surface with its lines. -/
theorem surfaceOf_present (he : e.Placed) (document : String) (lines : List String) :
    ((e.present document lines).1.surfaceOf (e.present document lines).2).bare =
      .ofLines lines := by
  unfold surfaceOf
  rw [he.overlay_present]
  have hbare := bare_openDocument (e.addSurface (.ofLines lines)).1 document e.surfaces.length
    e.surfaces.length
  rw [surface_addSurface, if_pos rfl] at hbare
  exact hbare

end Placed

namespace Registered

theorem placed (he : e.Registered) : e.Placed := fun _ _ => he.bound

theorem present (he : e.Registered) (document : String) (lines : List String) :
    (e.present document lines).1.Registered := by
  rw [present_eq_run]
  exact he.run _

theorem present_other (he : e.Registered) (hne : other ≠ document) (lines : List String) :
    (e.present document lines).1.overlayOf? other = e.overlayOf? other ∧
      ∀ id, e.overlayOf? other = some id → (e.present document lines).1.overlay id = e.overlay id ∧
        ((e.present document lines).1.surfaceOf id).bare = (e.surfaceOf id).bare := by
  rw [present_eq_run]
  exact he.run_other (by simpa [Action.document?] using Ne.symm hne)

theorem alone_present (he : e.Registered) (document : String) (lines : List String) :
    (e.present document lines).1.Alone document (e.present document lines).2 := by
  refine ⟨overlayOf?_openDocument _ _ _, fun {other j} hother hsame => ?_⟩
  rw [he.placed.overlay_present] at hsame
  by_contra hne
  obtain ⟨hlookup, hoverlay⟩ := he.present_other hne lines
  have hold : e.overlayOf? other = some j := hlookup.symm.trans hother
  rw [(hoverlay j hold).1] at hsame
  exact absurd hsame (Nat.ne_of_lt (he.bound hold))

end Registered

theorem Alone.annotateAll (h : e.Alone document id) (as : List Annotation) :
    (e.annotateAll id as).Alone document id := by
  refine ⟨(overlayOf?_annotateAll e id as document).trans h.isOpen, fun {other j} hother hsame => ?_⟩
  rw [surface_annotateAll, surface_annotateAll] at hsame
  rw [overlayOf?_annotateAll] at hother
  exact h.alone hother hsame

/-- No two documents are on the same surface. -/
structure Apart (e : Editor) : Prop where
  registered : e.Registered
  alone : ∀ {document : String} {id : OverlayId}, e.overlayOf? document = some id →
    e.Alone document id

namespace Apart

theorem empty : Apart Editor.empty := by
  refine ⟨.empty, ?_⟩
  intro document id h
  cases h

/-- Documents stay apart while overlays stay on their surfaces and no document is opened. -/
theorem congr (he : e.Apart) (he' : e'.Registered)
    (hlookup : ∀ {document : String} {id : OverlayId}, e'.overlayOf? document = some id →
      e.overlayOf? document = some id)
    (hsurface : ∀ id, (e'.overlay id).surface = (e.overlay id).surface) : e'.Apart := by
  refine ⟨he', fun {document id} h => ⟨h, fun {other j} hother hsame => ?_⟩⟩
  rw [hsurface, hsurface] at hsame
  exact (he.alone (hlookup h)).alone (hlookup hother) hsame

theorem present (he : e.Apart) (document : String) (lines : List String) :
    (e.present document lines).1.Apart := by
  have halone := he.registered.alone_present document lines
  refine ⟨he.registered.present document lines, fun {one id} hone => ?_⟩
  by_cases hne : one = document
  · subst hne
    obtain rfl : (e.present one lines).2 = id := Option.some.inj (halone.isOpen.symm.trans hone)
    exact halone
  · refine ⟨hone, fun {other j} hother hsame => ?_⟩
    obtain ⟨hlookup, hoverlay⟩ := he.registered.present_other hne lines
    have hone' := hlookup.symm.trans hone
    by_cases hother' : other = document
    · subst hother'
      obtain rfl := Option.some.inj (halone.isOpen.symm.trans hother)
      exact absurd (halone.alone hone hsame.symm) hne
    · obtain ⟨hlookup', hoverlay'⟩ := he.registered.present_other hother' lines
      have hold := hlookup'.symm.trans hother
      rw [(hoverlay id hone').1, (hoverlay' j hold).1] at hsame
      exact (he.alone hone').alone hold hsame

theorem annotateAll (he : e.Apart) (hid : e.overlayOf? document = some id) (as : List Annotation) :
    (e.annotateAll id as).Apart := by
  refine he.congr (he.registered.annotateAll hid as) ?_ ?_
  · intro other j h
    rwa [overlayOf?_annotateAll] at h
  · exact surface_annotateAll e _ as

theorem closeDocument (he : e.Apart) (document : String) : (e.closeDocument document).1.Apart := by
  refine he.congr (he.registered.closeDocument document) ?_ ?_
  · intro other j h
    rw [overlayOf?_closeDocument] at h
    split at h
    · cases h
    · exact h
  · intro j
    rw [closeDocument_eq]
    exact surface_vacate e document j

end Apart

/-! ## Views -/

/-- What is shown of a document if it is open: its annotations and the markers of its surface. -/
def view? (e : Editor) (document : String) : Option (List Annotation × List Marker) :=
  (e.overlayOf? document).map fun id => ((e.overlay id).sorted, (e.surfaceOf id).shown)

theorem view?_of_overlayOf? (h : e.overlayOf? document = some id) :
    e.view? document = some ((e.overlay id).sorted, (e.surfaceOf id).shown) := by
  unfold view?
  rw [h]
  rfl

theorem view?_eq_none (h : e.overlayOf? document = none) : e.view? document = none := by
  unfold view?
  rw [h]
  rfl

theorem markerFor_congr {s s' : Surface} (h : s.lines = s'.lines) : markerFor s = markerFor s' := by
  funext a
  unfold markerFor
  rw [Overlay.lineLength_congr h]

/-- What is done with other documents does not change the view of a document. -/
theorem Apart.view?_run_other (he : e.Apart) (actions : List Action) (he' : (e.run actions).Apart)
    (hother : ∀ action ∈ actions, action.document? ≠ some other) :
    (e.run actions).view? other = e.view? other := by
  obtain ⟨hlookup, hoverlay⟩ := he.registered.run_other hother
  cases hid : e.overlayOf? other with
  | none => rw [view?_eq_none hid, view?_eq_none (hlookup.trans hid)]
  | some id =>
    -- What its surface shows follows from the overlay and the lines, and neither was touched.
    have hid' := hlookup.trans hid
    obtain ⟨hsame, hbare⟩ := hoverlay id hid
    rw [view?_of_overlayOf? hid, view?_of_overlayOf? hid', (he.alone hid).shown he.registered,
      (he'.alone hid').shown he'.registered, hsame, markerFor_congr (lines_of_bare hbare)]

end VarsAdvisor.Editor

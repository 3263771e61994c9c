import VarsAdvisor.Proofs.Editor.Frame
import VarsAdvisor.Proofs.Table

/-!
# The first annotation of a line wins

What an overlay shows after a list of annotations was offered to it: on each line that exists, what
was there before, else the first of the list for that line (`get?_annotateAll`). An overlay keeps
its annotations under their lines, each with a handle (`Overlay.WF`), and shows them in the order of
the lines (`Overlay.WF.sorted_lt`).
-/

namespace VarsAdvisor

/-! ## Well-formed overlays -/

/-- Each annotation is kept once, under its own line, and the handles are those of the same lines.
-/
structure Overlay.WF (o : Overlay) : Prop where
  nodup : o.annotations.keys.Nodup
  handles : o.handles.keys = o.annotations.keys
  line : ∀ {l : Int} {a : Annotation}, o.annotations.get? l = some a → a.line = l

namespace Overlay.WF

theorem onSurface (id : SurfaceId) : (Overlay.onSurface id).WF := by
  refine ⟨List.nodup_nil, rfl, ?_⟩
  intro l a h
  cases h

/-- An annotation and a handle are put under the annotation's line. -/
theorem put {o : Overlay} (h : o.WF) (a : Annotation) (handle : Handle) :
    { o with
      annotations := o.annotations.put a.line a
      handles := o.handles.put a.line handle }.WF := by
  refine ⟨Table.nodup_keys_put h.nodup _ _, ?_, ?_⟩
  · simp only [Table.keys_put, h.handles]
  · intro l b hb
    simp only [Table.get?_put] at hb
    split at hb
    · next hl =>
      cases hb
      exact hl
    · exact h.line hb

theorem mem_sorted {o : Overlay} (h : o.WF) (a : Annotation) :
    a ∈ o.sorted ↔ o.annotations.get? a.line = some a := by
  unfold Overlay.sorted
  rw [List.mem_mergeSort, List.mem_map]
  constructor
  · rintro ⟨⟨l, b⟩, hmem, rfl⟩
    have hget := (Table.mem_iff_get? h.nodup).1 hmem
    rw [h.line hget]
    exact hget
  · intro hget
    exact ⟨(a.line, a), Table.mem_of_get? hget, rfl⟩

/-- The lines of the annotations are the keys under which they are kept. -/
theorem map_line {o : Overlay} (h : o.WF) :
    (o.annotations.map (·.2)).map (·.line) = o.annotations.keys := by
  unfold Table.keys
  rw [List.map_map]
  apply List.map_congr_left
  intro p hp
  exact h.line ((Table.mem_iff_get? h.nodup).1 hp)

/-- The annotations are shown in strictly increasing order of their lines. -/
theorem sorted_lt {o : Overlay} (h : o.WF) : o.sorted.Pairwise (·.line < ·.line) := by
  have hle : o.sorted.Pairwise fun a b => decide (a.line ≤ b.line) = true := by
    apply List.pairwise_mergeSort
    · intro a b c hab hbc
      simp only [decide_eq_true_eq] at hab hbc ⊢
      exact Int.le_trans hab hbc
    · intro a b
      simp only [Bool.or_eq_true, decide_eq_true_eq]
      exact Int.le_total _ _
  have hne : o.sorted.Pairwise fun a b => a.line ≠ b.line := by
    have hnodup : (o.sorted.map (·.line)).Nodup := by
      refine (List.Perm.nodup_iff ((List.mergeSort_perm _ _).map _)).2 ?_
      rw [h.map_line]
      exact h.nodup
    exact List.pairwise_map.1 hnodup
  refine (hle.and hne).imp ?_
  rintro a b ⟨hab, hne⟩
  exact Int.lt_iff_le_and_ne.2 ⟨of_decide_eq_true hab, hne⟩

end Overlay.WF

/-! ## Offering annotations -/

namespace Editor

/-- Lines are those of the surface, which annotating does not change. -/
theorem hasLine_congr {s s' : Surface} (h : s.lines = s'.lines) (l : Int) :
    s.hasLine l = s'.hasLine l := by
  unfold Surface.hasLine Surface.lineCount
  rw [h]

theorem accepts_iff {e : Editor} {id : OverlayId} {l : Int} :
    e.accepts id l = true ↔
      l ∉ (e.overlay id).annotations.keys ∧ (e.surfaceOf id).hasLine l = true := by
  rw [← Table.get?_eq_none_iff]
  simp [accepts, Table.has]

theorem surface_overlay_annotate {e : Editor} {id : OverlayId} (hid : id < e.overlays.length)
    (a : Annotation) : ((e.annotate id a).1.overlay id).surface = (e.overlay id).surface := by
  unfold annotate
  split
  · dsimp only
    rw [overlay_setOverlay_self (by rwa [length_createMarker])]
  · rfl

theorem lines_surfaceOf_annotate {e : Editor} {id : OverlayId} (hid : id < e.overlays.length)
    (a : Annotation) :
    ((e.annotate id a).1.surfaceOf id).lines = (e.surfaceOf id).lines := by
  unfold surfaceOf
  rw [surface_overlay_annotate hid, lines_annotate]

theorem annotations_annotate {e : Editor} {id : OverlayId} (hid : id < e.overlays.length)
    (a : Annotation) :
    ((e.annotate id a).1.overlay id).annotations =
      if e.accepts id a.line then (e.overlay id).annotations.put a.line a
      else (e.overlay id).annotations := by
  unfold annotate
  split
  · dsimp only
    rw [overlay_setOverlay_self (by rwa [length_createMarker])]
  · rfl

/-- One annotation is taken where its line exists and shows nothing yet. -/
theorem get?_annotate {e : Editor} {id : OverlayId} (hid : id < e.overlays.length) (a : Annotation)
    (l : Int) :
    ((e.annotate id a).1.overlay id).annotations.get? l =
      ((e.overlay id).annotations.get? l).or
        (if (e.surfaceOf id).hasLine l ∧ a.line = l then some a else none) := by
  rw [annotations_annotate hid]
  by_cases hacc : e.accepts id a.line = true
  · rw [if_pos hacc]
    rw [Table.get?_put]
    obtain ⟨hfree, hline⟩ := accepts_iff.1 hacc
    by_cases hl : a.line = l
    · subst hl
      have hnone := (Table.get?_eq_none_iff _ _).2 hfree
      rw [if_pos rfl, if_pos ⟨hline, rfl⟩, hnone]
      rfl
    · rw [if_neg hl, if_neg fun h => hl h.2, Option.or_none]
  · rw [if_neg hacc]
    by_cases hl : (e.surfaceOf id).hasLine l = true ∧ a.line = l
    · obtain ⟨hline, rfl⟩ := hl
      have hold : (e.overlay id).annotations.get? a.line ≠ none := by
        simpa [accepts, hline, Table.has] using hacc
      obtain ⟨b, hb⟩ := Option.ne_none_iff_exists'.1 hold
      rw [hb]
      rfl
    · rw [if_neg hl, Option.or_none]

/-- **The first annotation of a line wins**, and lines that do not exist get none. -/
theorem get?_annotateAll {e : Editor} {id : OverlayId} (hid : id < e.overlays.length)
    (as : List Annotation) (l : Int) :
    ((e.annotateAll id as).overlay id).annotations.get? l =
      ((e.overlay id).annotations.get? l).or
        (if (e.surfaceOf id).hasLine l then as.find? (·.line = l) else none) := by
  induction as generalizing e with
  | nil => simp
  | cons a as ih =>
    have hid' : id < (e.annotate id a).1.overlays.length := by rwa [length_annotate]
    rw [annotateAll_cons, ih hid', get?_annotate hid,
      hasLine_congr (lines_surfaceOf_annotate hid a), List.find?_cons]
    cases hold : (e.overlay id).annotations.get? l with
    | some b => rfl
    | none =>
      by_cases hline : (e.surfaceOf id).hasLine l = true
      · by_cases hl : a.line = l
        · simp [hline, hl]
        · simp [hline, hl]
      · simp [hline]

/-- The lines that an offer adds are added at the end, and come from the offer. -/
theorem exists_annotations_annotateAll {e : Editor} {id : OverlayId} (hid : id < e.overlays.length)
    (as : List Annotation) :
    ∃ more : Table Int Annotation,
      ((e.annotateAll id as).overlay id).annotations = (e.overlay id).annotations ++ more ∧
        ∀ p ∈ more, p.2 ∈ as := by
  induction as generalizing e with
  | nil => exact ⟨[], (List.append_nil _).symm, by simp⟩
  | cons a as ih =>
    obtain ⟨more, hmore, hfrom⟩ := ih (e := (e.annotate id a).1) (by rwa [length_annotate])
    rw [annotateAll_cons, hmore, annotations_annotate hid]
    split
    · next hacc =>
      refine ⟨(a.line, a) :: more, ?_, ?_⟩
      · rw [Table.put_of_not_mem (accepts_iff.1 hacc).1, List.append_assoc, List.singleton_append]
      · rw [List.forall_mem_cons]
        exact ⟨List.mem_cons_self, fun p hp => List.mem_cons_of_mem _ (hfrom p hp)⟩
    · exact ⟨more, rfl, fun p hp => List.mem_cons_of_mem _ (hfrom p hp)⟩

/-- What is shown after the offer depends only on what was shown before, and on the lines. -/
theorem annotations_annotateAll_congr {e e' : Editor} {id : OverlayId}
    (hid : id < e.overlays.length) (hid' : id < e'.overlays.length)
    (hshown : (e.overlay id).annotations = (e'.overlay id).annotations)
    (hlines : (e.surfaceOf id).lines = (e'.surfaceOf id).lines) (as : List Annotation) :
    ((e.annotateAll id as).overlay id).annotations =
      ((e'.annotateAll id as).overlay id).annotations := by
  induction as generalizing e e' with
  | nil => exact hshown
  | cons a as ih =>
    rw [annotateAll_cons, annotateAll_cons]
    apply ih
    · rwa [length_annotate]
    · rwa [length_annotate]
    · have hacc : e.accepts id a.line = e'.accepts id a.line := by
        unfold accepts
        rw [hshown, hasLine_congr hlines]
      rw [annotations_annotate hid, annotations_annotate hid', hacc, hshown]
    · rw [lines_surfaceOf_annotate hid, lines_surfaceOf_annotate hid', hlines]

/-- Annotating keeps an overlay well-formed. -/
theorem wf_annotate {e : Editor} {id : OverlayId} (hid : id < e.overlays.length)
    (h : (e.overlay id).WF) (a : Annotation) : ((e.annotate id a).1.overlay id).WF := by
  unfold annotate
  split
  · dsimp only
    rw [overlay_setOverlay_self (by rwa [length_createMarker])]
    exact h.put a _
  · exact h

theorem wf_annotateAll {e : Editor} {id : OverlayId} (hid : id < e.overlays.length)
    (h : (e.overlay id).WF) (as : List Annotation) : ((e.annotateAll id as).overlay id).WF := by
  induction as generalizing e with
  | nil => exact h
  | cons a as ih =>
    rw [annotateAll_cons]
    exact ih (by rwa [length_annotate]) (wf_annotate hid h a)

end Editor

end VarsAdvisor

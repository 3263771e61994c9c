import Mathlib.Data.List.Perm.Lattice
import Mathlib.Data.List.Range
import VarsAdvisor.Proofs.Editor.Balance

/-!
# Overlays of open documents

In a registered editor (`Editor.Registered`) each open document has an overlay of its own, all other
overlays are blank, and every marker can be disposed of. Opening a document on another surface and
closing it clear the overlay that goes, so both keep this. Then a surface shows the markers of the
annotations that open documents have on it, and no others (`Registered.markers_perm`).
-/

namespace VarsAdvisor

/-- An overlay whose handles are not broken has a marker for each annotation. -/
theorem Overlay.notes_of_intact {o : Overlay} (ho : o.WF)
    (hintact : ∀ h ∈ o.held, h.broken = false) (s : Surface) :
    (o.notes s).map (·.2) = o.annotations.map fun (_, a) => Editor.markerFor s a := by
  unfold notes
  rw [List.map_filterMap, ← List.filterMap_eq_map]
  apply List.filterMap_congr
  rintro ⟨line, a⟩ hmem
  have hline : line ∈ o.handles.keys := by
    rw [ho.handles]
    exact List.mem_map_of_mem hmem
  obtain ⟨h, hget⟩ := Option.isSome_iff_exists.1 ((Table.mem_keys_iff _ _).1 hline)
  have hheld : h ∈ o.held := List.mem_map_of_mem (Table.mem_of_get? hget)
  obtain rfl : a.line = line := ho.line ((Table.mem_iff_get? ho.nodup).1 hmem)
  simp only [hget, hintact h hheld]
  rfl

namespace Editor

/-! ## Opening and closing by parts -/

/-- Clears the overlay of a document, if it has one. -/
def vacate (e : Editor) (document : String) : Editor :=
  match e.overlayOf? document with
  | none => e
  | some current => e.clear current

/-- Gives a document a new overlay on a surface. -/
def enrol (e : Editor) (document : String) (id : SurfaceId) : Editor :=
  { (e.addOverlay id).1 with documents := e.documents.put document e.overlays.length }

/-- Takes a document's overlay from it. -/
def forget (e : Editor) (document : String) : Editor :=
  { e with documents := e.documents.erase document }

variable {e : Editor} {document other : String}

/-- On the surface that it is open on, a document stays as it is. -/
theorem openDocument_same {current : OverlayId} (h : e.overlayOf? document = some current) :
    e.openDocument document (e.overlay current).surface = (e, current) := by
  unfold overlayOf? at h
  unfold openDocument
  simp only [h, if_true]

theorem openDocument_other {id : SurfaceId}
    (h : ∀ current, e.overlayOf? document = some current → (e.overlay current).surface ≠ id) :
    e.openDocument document id = ((e.vacate document).enrol document id, e.overlays.length) := by
  unfold overlayOf? at h
  unfold openDocument vacate overlayOf?
  cases hget : e.documents.get? document with
  | none => rfl
  | some current =>
    dsimp only
    rw [if_neg (h current hget)]
    unfold addOverlay enrol
    simp only [length_clear]
    rfl

/-- A document is open on the surface already, or it gets a new overlay there. -/
theorem openDocument_cases (e : Editor) (document : String) (id : SurfaceId) :
    (∃ current, e.overlayOf? document = some current ∧ (e.overlay current).surface = id ∧
      e.openDocument document id = (e, current)) ∨
    e.openDocument document id = ((e.vacate document).enrol document id, e.overlays.length) := by
  by_cases hsame : ∃ current, e.overlayOf? document = some current ∧
      (e.overlay current).surface = id
  · obtain ⟨current, hcurrent, rfl⟩ := hsame
    exact .inl ⟨current, hcurrent, rfl, openDocument_same hcurrent⟩
  · exact .inr (openDocument_other fun current h h' => hsame ⟨current, h, h'⟩)

theorem release_forget (e : Editor) (document : String) (h : Handle) :
    (e.forget document).release h = (e.release h).forget document := by
  unfold release dispose?
  split <;> rfl

theorem clear_forget (e : Editor) (document : String) (id : OverlayId) :
    (e.forget document).clear id = (e.clear id).forget document := by
  have hall : ∀ (hs : List Handle) (e : Editor),
      hs.foldl release (e.forget document) = (hs.foldl release e).forget document := by
    intro hs
    induction hs with
    | nil => exact fun _ => rfl
    | cons h hs ih =>
      intro e
      rw [List.foldl_cons, List.foldl_cons, release_forget, ih]
  unfold clear
  dsimp only
  rw [show (e.forget document).overlay id = e.overlay id from rfl, hall]
  rfl

theorem closeDocument_eq (e : Editor) (document : String) :
    e.closeDocument document = ((e.vacate document).forget document,
      (e.overlayOf? document).isSome) := by
  unfold closeDocument vacate overlayOf?
  cases hget : e.documents.get? document with
  | none =>
    have hkeys : document ∉ e.documents.keys := (Table.get?_eq_none_iff _ _).1 hget
    unfold forget
    rw [Table.erase_of_not_mem hkeys]
    rfl
  | some current =>
    dsimp only
    rw [← clear_forget]
    rfl

/-! ## What the parts leave alone -/

theorem overlayOf?_annotate (e : Editor) (id : OverlayId) (a : Annotation) (document : String) :
    (e.annotate id a).1.overlayOf? document = e.overlayOf? document := by
  unfold overlayOf?
  rw [documents_annotate]

theorem overlayOf?_clear (e : Editor) (id : OverlayId) (document : String) :
    (e.clear id).overlayOf? document = e.overlayOf? document := by
  unfold overlayOf?
  rw [documents_clear]

theorem overlayOf?_annotateAll (e : Editor) (id : OverlayId) (as : List Annotation)
    (document : String) : (e.annotateAll id as).overlayOf? document = e.overlayOf? document := by
  unfold overlayOf?
  rw [documents_annotateAll]

/-- An overlay without annotations is not changed when it is cleared. -/
theorem clear_onSurface {id : OverlayId} {j : SurfaceId} (h : e.overlay id = .onSurface j) :
    e.clear id = e := by
  have hsame : e.overlays.set id (.onSurface j) = e.overlays := by
    by_cases hid : id < e.overlays.length
    · rw [← h, overlay_eq_getElem hid, List.set_getElem_self]
    · exact List.set_eq_of_length_le (Nat.le_of_not_lt hid)
  unfold clear setOverlay
  rw [h]
  show { e with overlays := e.overlays.set id (.onSurface j) } = e
  rw [hsame]

/-- Annotating moves no overlay to another surface. -/
theorem surface_annotate (e : Editor) (id : OverlayId) (a : Annotation) (j : OverlayId) :
    ((e.annotate id a).1.overlay j).surface = (e.overlay j).surface := by
  by_cases hj : j = id
  · rw [hj]
    by_cases hid : id < e.overlays.length
    · exact surface_overlay_annotate hid a
    · have hle := Nat.le_of_not_lt hid
      rw [overlay_of_le hle, overlay_of_le (by rwa [length_annotate])]
  · rw [overlay_annotate_ne hj]

theorem surface_annotateAll (e : Editor) (id : OverlayId) (as : List Annotation) (j : OverlayId) :
    ((e.annotateAll id as).overlay j).surface = (e.overlay j).surface := by
  induction as generalizing e with
  | nil => rfl
  | cons a as ih => rw [annotateAll_cons, ih, surface_annotate]

/-- Nor does clearing. -/
theorem surface_clear (e : Editor) (id j : OverlayId) :
    ((e.clear id).overlay j).surface = (e.overlay j).surface := by
  by_cases hj : j = id
  · rw [hj, overlay_clear]
    rfl
  · rw [overlay_clear_ne hj]

theorem surface_vacate (e : Editor) (document : String) (j : OverlayId) :
    ((e.vacate document).overlay j).surface = (e.overlay j).surface := by
  unfold vacate
  split
  · rfl
  · exact surface_clear e _ j

/-- Where no line is broken, annotating makes no broken handle. -/
theorem intact_annotate (he : e.Tidy) (hwhole : ∀ j, (e.surface j).brokenLines = [])
    (hintact : ∀ {j : OverlayId} {h : Handle}, h ∈ (e.overlay j).held → h.broken = false)
    (id : OverlayId) (a : Annotation) {j : OverlayId} {h : Handle}
    (hmem : h ∈ ((e.annotate id a).1.overlay j).held) : h.broken = false := by
  rcases held_annotate he.wf id a j with hsame | ⟨m, -, -, hnew⟩
  · exact hintact (hsame ▸ hmem)
  · rw [hnew, List.mem_append, List.mem_singleton] at hmem
    rcases hmem with hold | rfl
    · exact hintact hold
    · show (e.surface (e.overlay id).surface).brokenLines.contains m.line = false
      rw [hwhole]
      rfl

theorem intact_clear
    (hintact : ∀ {j : OverlayId} {h : Handle}, h ∈ (e.overlay j).held → h.broken = false)
    (id : OverlayId) {j : OverlayId} {h : Handle} (hmem : h ∈ ((e.clear id).overlay j).held) :
    h.broken = false := by
  by_cases hj : j = id
  · rw [hj, overlay_clear] at hmem
    cases hmem
  · rw [overlay_clear_ne hj] at hmem
    exact hintact hmem

@[simp] theorem length_vacate (e : Editor) (document : String) :
    (e.vacate document).overlays.length = e.overlays.length := by
  unfold vacate
  split
  · rfl
  · exact length_clear e _

@[simp] theorem documents_vacate (e : Editor) (document : String) :
    (e.vacate document).documents = e.documents := by
  unfold vacate
  split
  · rfl
  · exact documents_clear e _

theorem overlayOf?_vacate (e : Editor) (document other : String) :
    (e.vacate document).overlayOf? other = e.overlayOf? other := by
  unfold overlayOf?
  rw [documents_vacate]

theorem overlay_vacate_ne {id : OverlayId} (h : e.overlayOf? document ≠ some id) :
    (e.vacate document).overlay id = e.overlay id := by
  unfold vacate
  split
  · rfl
  · next current hcurrent =>
    refine overlay_clear_ne ?_ e
    rintro rfl
    exact h hcurrent

theorem isBlank_vacate {id : OverlayId} (h : e.overlayOf? document = some id) :
    ((e.vacate document).overlay id).IsBlank := by
  unfold vacate
  rw [h]
  exact isBlank_clear e id

theorem isBlank_vacate_of_isBlank (document : String) {id : OverlayId}
    (h : (e.overlay id).IsBlank) : ((e.vacate document).overlay id).IsBlank := by
  by_cases hid : e.overlayOf? document = some id
  · exact isBlank_vacate hid
  · rwa [overlay_vacate_ne hid]

theorem overlayOf?_enrol (e : Editor) (document other : String) (id : SurfaceId) :
    (e.enrol document id).overlayOf? other =
      if document = other then some e.overlays.length else e.overlayOf? other :=
  Table.get?_put _ _ _ _

theorem overlay_enrol (e : Editor) (document : String) (id : SurfaceId) (j : OverlayId) :
    (e.enrol document id).overlay j =
      if j = e.overlays.length then .onSurface id else e.overlay j :=
  overlay_addOverlay e id j

theorem overlayOf?_forget (e : Editor) (document other : String) :
    (e.forget document).overlayOf? other =
      if document = other then none else e.overlayOf? other :=
  Table.get?_erase _ _ _

/-! ## Registered editors -/

/-- Each open document has an overlay of its own, on a surface in use; the overlays of no document
are blank; no line is broken, so no handle is; and there are no other markers than those of
overlays. -/
structure Registered (e : Editor) : Prop where
  balanced : e.Balanced fun _ => []
  nodup : e.documents.keys.Nodup
  inUse : ∀ {document : String} {id : OverlayId}, e.overlayOf? document = some id →
    id < e.overlays.length
  bound : ∀ {document : String} {id : OverlayId}, e.overlayOf? document = some id →
    (e.overlay id).surface < e.surfaces.length
  own : ∀ {document other : String} {id : OverlayId}, e.overlayOf? document = some id →
    e.overlayOf? other = some id → document = other
  blank : ∀ {id : OverlayId}, (∀ document, e.overlayOf? document ≠ some id) →
    (e.overlay id).IsBlank
  intact : ∀ {id : OverlayId} {h : Handle}, h ∈ (e.overlay id).held → h.broken = false
  whole : ∀ j, (e.surface j).brokenLines = []

theorem Balanced.setDocuments {loose : SurfaceId → Table Nat Marker} (he : e.Balanced loose)
    (documents : Table String OverlayId) : { e with documents := documents }.Balanced loose :=
  ⟨he.tidy.congr rfl rfl rfl, he.line, he.home, he.nodup, he.markers⟩

namespace Registered

theorem empty : Registered Editor.empty := by
  refine ⟨.empty, List.nodup_nil, ?_, ?_, ?_, fun _ => ⟨rfl, rfl⟩, ?_, fun _ => rfl⟩
  all_goals intros; contradiction

theorem addSurface (he : e.Registered) (lines : List String) :
    (e.addSurface (.ofLines lines)).1.Registered := by
  refine ⟨he.balanced.addSurface lines [], he.nodup, he.inUse, ?_, he.own, he.blank, he.intact, ?_⟩
  · intro document id h
    have hlength : (e.addSurface (.ofLines lines)).1.surfaces.length = e.surfaces.length + 1 :=
      List.length_append
    rw [hlength]
    exact Nat.lt_succ_of_lt (he.bound h)
  · intro j
    rw [surface_addSurface]
    split
    · rfl
    · exact he.whole j

theorem annotate (he : e.Registered) {id : OverlayId} (hid : e.overlayOf? document = some id)
    (a : Annotation) : (e.annotate id a).1.Registered := by
  have hlookup := overlayOf?_annotate e id a
  refine ⟨he.balanced.annotate (he.inUse hid) a, ?_, ?_, ?_, ?_, ?_, ?_, ?_⟩
  · rw [documents_annotate]
    exact he.nodup
  · intro other j h
    rw [length_annotate]
    exact he.inUse ((hlookup other).symm.trans h)
  · intro other j h
    rw [surface_annotate, length_surfaces_annotate]
    exact he.bound ((hlookup other).symm.trans h)
  · intro one other j h h'
    exact he.own ((hlookup one).symm.trans h) ((hlookup other).symm.trans h')
  · intro j h
    have hj : j ≠ id := by
      rintro rfl
      exact h document ((hlookup document).trans hid)
    rw [overlay_annotate_ne hj]
    exact he.blank fun other hother => h other ((hlookup other).trans hother)
  · exact intact_annotate he.balanced.tidy he.whole he.intact id a
  · intro j
    rw [brokenLines_of_bare (bare_annotate e id a j)]
    exact he.whole j

theorem annotateAll (he : e.Registered) {id : OverlayId} (hid : e.overlayOf? document = some id)
    (as : List Annotation) : (e.annotateAll id as).Registered := by
  induction as generalizing e with
  | nil => exact he
  | cons a as ih =>
    refine ih (he.annotate hid a) ?_
    rwa [overlayOf?_annotate]

theorem clear (he : e.Registered) {id : OverlayId} (hid : id < e.overlays.length) :
    (e.clear id).Registered := by
  have hlookup := overlayOf?_clear e id
  refine ⟨he.balanced.clear hid, ?_, ?_, ?_, ?_, ?_, ?_, ?_⟩
  · rw [documents_clear]
    exact he.nodup
  · intro other j h
    rw [length_clear]
    exact he.inUse ((hlookup other).symm.trans h)
  · intro other j h
    rw [surface_clear, length_surfaces_clear]
    exact he.bound ((hlookup other).symm.trans h)
  · intro one other j h h'
    exact he.own ((hlookup one).symm.trans h) ((hlookup other).symm.trans h')
  · intro j h
    by_cases hj : j = id
    · rw [hj]
      exact isBlank_clear e id
    · rw [overlay_clear_ne hj]
      exact he.blank fun other hother => h other ((hlookup other).trans hother)
  · exact intact_clear he.intact id
  · intro j
    rw [brokenLines_of_bare (bare_clear e id j)]
    exact he.whole j

theorem vacate (he : e.Registered) (document : String) : (e.vacate document).Registered := by
  unfold Editor.vacate
  split
  · exact he
  · next current hcurrent => exact he.clear (he.inUse hcurrent)

/-- If the overlay of a document is blank, so is each one that no other document has. -/
theorem blank_of_others (he : e.Registered)
    (hblank : ∀ current, e.overlayOf? document = some current → (e.overlay current).IsBlank)
    {j : OverlayId} (h : ∀ other, document ≠ other → e.overlayOf? other ≠ some j) :
    (e.overlay j).IsBlank := by
  by_cases hj : e.overlayOf? document = some j
  · exact hblank j hj
  · refine he.blank fun other hother => h other ?_ hother
    rintro rfl
    exact hj hother

/-- A document may get a new overlay if the one that it has is blank. -/
theorem enrol (he : e.Registered) {id : SurfaceId} (hid : id < e.surfaces.length)
    (hblank : ∀ current, e.overlayOf? document = some current → (e.overlay current).IsBlank) :
    (e.enrol document id).Registered := by
  have hlookup := fun other => overlayOf?_enrol e document other id
  have hoverlay := overlay_enrol e document id
  have hlength : (e.enrol document id).overlays.length = e.overlays.length + 1 :=
    List.length_append
  -- The new overlay is the document's and no one else's; all others were there before.
  have hold : ∀ {other : String} {j : OverlayId}, (e.enrol document id).overlayOf? other = some j →
      (document = other ∧ j = e.overlays.length) ∨
        (document ≠ other ∧ e.overlayOf? other = some j ∧ j < e.overlays.length) := by
    intro other j h
    rw [hlookup] at h
    split at h
    · next heq => exact .inl ⟨heq, (Option.some.inj h).symm⟩
    · next hne => exact .inr ⟨hne, h, he.inUse h⟩
  refine ⟨(he.balanced.addOverlay id).setDocuments _, Table.nodup_keys_put he.nodup _ _,
    ?_, ?_, ?_, ?_, ?_, he.whole⟩
  · intro other j h
    rw [hlength]
    rcases hold h with ⟨-, rfl⟩ | ⟨-, -, hlt⟩
    · exact Nat.lt_succ_self _
    · exact Nat.lt_succ_of_lt hlt
  · intro other j h
    rw [hoverlay]
    rcases hold h with ⟨-, rfl⟩ | ⟨-, hother, hlt⟩
    · rw [if_pos rfl]
      exact hid
    · rw [if_neg (Nat.ne_of_lt hlt)]
      exact he.bound hother
  · intro one other j h h'
    rcases hold h with ⟨hone, hj⟩ | ⟨-, hone, hlt⟩ <;>
      rcases hold h' with ⟨hother, hj'⟩ | ⟨-, hother, hlt'⟩
    · exact hone.symm.trans hother
    · exact absurd hj (Nat.ne_of_lt hlt')
    · exact absurd hj' (Nat.ne_of_lt hlt)
    · exact he.own hone hother
  · intro j h
    rw [hoverlay]
    split
    · exact ⟨rfl, rfl⟩
    · refine he.blank_of_others hblank fun other hne hother => h other ?_
      rw [hlookup, if_neg hne, hother]
  · intro j h hmem
    rw [hoverlay] at hmem
    split at hmem
    · cases hmem
    · exact he.intact hmem

theorem forget (he : e.Registered)
    (hblank : ∀ current, e.overlayOf? document = some current → (e.overlay current).IsBlank) :
    (e.forget document).Registered := by
  have hlookup := overlayOf?_forget e document
  have hold : ∀ {other : String} {j : OverlayId}, (e.forget document).overlayOf? other = some j →
      e.overlayOf? other = some j := by
    intro other j h
    rw [hlookup] at h
    split at h
    · cases h
    · exact h
  refine ⟨he.balanced.setDocuments _, Table.nodup_keys_erase he.nodup _,
    fun h => he.inUse (hold h), fun h => he.bound (hold h),
    fun h h' => he.own (hold h) (hold h'), ?_, he.intact, he.whole⟩
  intro j h
  refine he.blank_of_others hblank fun other hne hother => h other ?_
  rw [hlookup, if_neg hne, hother]

theorem openDocument (he : e.Registered) (document : String) {id : SurfaceId}
    (hid : id < e.surfaces.length) : (e.openDocument document id).1.Registered := by
  rcases openDocument_cases e document id with ⟨current, -, -, hopened⟩ | hopened
  · rwa [hopened]
  · rw [hopened]
    refine (he.vacate document).enrol ?_ fun current h => ?_
    · unfold Editor.vacate
      split
      · exact hid
      · rwa [length_surfaces_clear]
    · exact isBlank_vacate ((overlayOf?_vacate e document document).symm.trans h)

theorem closeDocument (he : e.Registered) (document : String) :
    (e.closeDocument document).1.Registered := by
  rw [closeDocument_eq]
  refine (he.vacate document).forget fun current h => ?_
  exact isBlank_vacate ((overlayOf?_vacate e document document).symm.trans h)

end Registered

/-! ## Documents apart -/

theorem overlayOf?_openDocument (e : Editor) (document : String) (id : SurfaceId) :
    (e.openDocument document id).1.overlayOf? document = some (e.openDocument document id).2 := by
  rcases openDocument_cases e document id with ⟨current, hcurrent, -, hopened⟩ | hopened
  · rwa [hopened]
  · rw [hopened, overlayOf?_enrol, if_pos rfl, length_vacate]

theorem overlayOf?_openDocument_ne (hne : document ≠ other) (id : SurfaceId) :
    (e.openDocument document id).1.overlayOf? other = e.overlayOf? other := by
  rcases openDocument_cases e document id with ⟨current, -, -, hopened⟩ | hopened
  · rw [hopened]
  · rw [hopened, overlayOf?_enrol, if_neg hne, overlayOf?_vacate]

theorem overlayOf?_closeDocument (e : Editor) (document other : String) :
    (e.closeDocument document).1.overlayOf? other =
      if document = other then none else e.overlayOf? other := by
  rw [closeDocument_eq, overlayOf?_forget, overlayOf?_vacate]

namespace Registered

/-- What is done to the overlay of one document leaves that of another as it is. -/
theorem overlay_vacate_other (he : e.Registered) (hne : document ≠ other) {id : OverlayId}
    (hid : e.overlayOf? other = some id) : (e.vacate document).overlay id = e.overlay id :=
  overlay_vacate_ne fun h => hne (he.own h hid)

theorem overlay_openDocument_ne (he : e.Registered) (hne : document ≠ other) {id : OverlayId}
    (hid : e.overlayOf? other = some id) (j : SurfaceId) :
    (e.openDocument document j).1.overlay id = e.overlay id := by
  rcases openDocument_cases e document j with ⟨current, -, -, hopened⟩ | hopened
  · rw [hopened]
  · rw [hopened, overlay_enrol, length_vacate, if_neg (Nat.ne_of_lt (he.inUse hid)),
      he.overlay_vacate_other hne hid]

theorem overlay_closeDocument_ne (he : e.Registered) (hne : document ≠ other) {id : OverlayId}
    (hid : e.overlayOf? other = some id) :
    (e.closeDocument document).1.overlay id = e.overlay id := by
  rw [closeDocument_eq]
  exact he.overlay_vacate_other hne hid

end Registered

/-! ## Whose markers a surface shows -/

/-- The markers of the annotations that open documents have on a surface. -/
def documentMarkers (e : Editor) (j : SurfaceId) : List Marker :=
  e.documents.flatMap fun (_, id) =>
    if (e.overlay id).surface = j then
      (e.overlay id).annotations.map fun (_, a) => markerFor (e.surface j) a
    else []

/-- What only some of the items yield is what these yield. -/
theorem flatMap_range_perm {α : Type} {n : Nat} {is : List Nat} (hnodup : is.Nodup)
    (hlt : ∀ i ∈ is, i < n) {f : Nat → List α} (hnil : ∀ i, i ∉ is → f i = []) :
    ((List.range n).flatMap f).Perm (is.flatMap f) := by
  -- Items that yield nothing can be left out; what is then left of the range are the items `is`.
  have hsome : (List.range n).flatMap f = ((List.range n).filter (· ∈ is)).flatMap f := by
    induction List.range n with
    | nil => rfl
    | cons i rest ih =>
      rw [List.flatMap_cons, ih, List.filter_cons]
      by_cases hi : i ∈ is
      · simp [hi]
      · simp [hi, hnil i hi]
  rw [hsome]
  refine List.Perm.flatMap_right f ?_
  refine (List.perm_ext_iff_of_nodup (List.nodup_range.filter _) hnodup).2 fun i => ?_
  simp only [List.mem_filter, List.mem_range, decide_eq_true_eq, and_iff_right_iff_imp]
  exact hlt i

theorem overlays_eq_map (e : Editor) :
    e.overlays = (List.range e.overlays.length).map e.overlay := by
  refine List.ext_getElem (by simp) fun i h h' => ?_
  rw [List.getElem_map, List.getElem_range, overlay_eq_getElem h]

namespace Registered

theorem nodup_overlays (he : e.Registered) : (e.documents.map (·.2)).Nodup := by
  refine List.Nodup.map_on ?_ (List.Nodup.of_map _ he.nodup)
  rintro ⟨document, id⟩ hmem ⟨other, id'⟩ hmem' (rfl : id = id')
  have hown := he.own ((Table.mem_iff_get? he.nodup).1 hmem) ((Table.mem_iff_get? he.nodup).1 hmem')
  rw [hown]

/-- **A surface shows what open documents have on it**, and nothing else. -/
theorem markers_perm (he : e.Registered) (j : SurfaceId) :
    ((e.surface j).markers.map (·.2)).Perm (e.documentMarkers j) := by
  -- The balance counts what every overlay notes on the surface; the overlays that no document has
  -- are blank, so those of open documents are all that count.
  let notes := fun id => ((e.overlay id).notesAt j (e.surface j)).map (·.2)
  have hnotes : ∀ id, notes id = if (e.overlay id).surface = j then
      (e.overlay id).annotations.map fun (_, a) => markerFor (e.surface j) a else [] := by
    intro id
    simp only [notes, Overlay.notesAt]
    split
    · exact Overlay.notes_of_intact (he.balanced.tidy.wf id) (fun h => he.intact) _
    · rfl
  have hall : (e.notesOn j).map (·.2) = (List.range e.overlays.length).flatMap notes := by
    unfold notesOn
    rw [List.map_flatMap]
    conv_lhs => rw [overlays_eq_map e]
    rw [List.flatMap_map]
  have hopen : e.documentMarkers j = (e.documents.map (·.2)).flatMap notes := by
    unfold documentMarkers
    rw [List.flatMap_map]
    simp only [hnotes]
  rw [hopen]
  refine ((he.balanced.markers j).map _).trans ?_
  rw [List.nil_append, hall]
  refine flatMap_range_perm he.nodup_overlays ?_ ?_
  · intro id hid
    obtain ⟨⟨document, id⟩, hmem, rfl⟩ := List.mem_map.1 hid
    exact he.inUse ((Table.mem_iff_get? he.nodup).1 hmem)
  · intro id hid
    have hblank : (e.overlay id).IsBlank := he.blank fun document h =>
      hid (List.mem_map_of_mem (f := (·.2)) (Table.mem_of_get? h))
    rw [hnotes, hblank.1]
    split <;> rfl

end Registered

end Editor

end VarsAdvisor

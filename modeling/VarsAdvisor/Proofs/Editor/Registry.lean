import VarsAdvisor.Proofs.Editor.Registered

/-!
# Open documents over time

Documents are opened on surfaces, several on the same one if need be, opened again there or
elsewhere, annotated, cleared and closed, in whatever order. Whatever was done, each surface shows
the markers of the annotations that open documents have on it, and no others
(`no_marker_left_behind`).
-/

namespace VarsAdvisor.Editor

/-- Something that is done with surfaces and open documents. -/
inductive Action where
  | addSurface (lines : List String)
  | openDocument (document : String) (surface : SurfaceId)
  | closeDocument (document : String)
  | lookUp (document : String)
  | annotate (document : String) (a : Annotation)
  | clear (document : String)
  deriving Repr

/-- The document that an action is about. -/
def Action.document? : Action → Option String
  | .addSurface _ => none
  | .openDocument document _ | .closeDocument document | .lookUp document | .annotate document _
  | .clear document => some document

/-- What an action does. A document that is not open is neither annotated nor cleared, and none is
opened on a surface that is not in use. -/
def act (e : Editor) : Action → Editor
  | .addSurface lines => (e.addSurface (.ofLines lines)).1
  | .openDocument document id =>
    if id < e.surfaces.length then (e.openDocument document id).1 else e
  | .closeDocument document => (e.closeDocument document).1
  | .lookUp _ => e
  | .annotate document a => match e.overlayOf? document with
    | some id => (e.annotate id a).1
    | none => e
  | .clear document => e.vacate document

/-- What actions do, one after the other. -/
def run (e : Editor) (actions : List Action) : Editor :=
  actions.foldl act e

variable {e : Editor}

theorem Registered.act (he : e.Registered) (action : Action) : (e.act action).Registered := by
  cases action with
  | addSurface lines => exact he.addSurface lines
  | openDocument document id =>
    simp only [Editor.act]
    split
    · next hid => exact he.openDocument document hid
    · exact he
  | closeDocument document => exact he.closeDocument document
  | lookUp document => exact he
  | annotate document a =>
    simp only [Editor.act]
    split
    · next id hid => exact he.annotate hid a
    · exact he
  | clear document => exact he.vacate document

theorem Registered.run (he : e.Registered) (actions : List Action) :
    (e.run actions).Registered := by
  induction actions generalizing e with
  | nil => exact he
  | cons action rest ih => exact ih (he.act action)

/-- An action about one document leaves what another one has. -/
theorem Registered.act_other (he : e.Registered) {action : Action} {other : String}
    (hne : action.document? ≠ some other) :
    (e.act action).overlayOf? other = e.overlayOf? other ∧
      ∀ id, e.overlayOf? other = some id → (e.act action).overlay id = e.overlay id := by
  cases action with
  | addSurface lines => exact ⟨rfl, fun _ _ => rfl⟩
  | openDocument document id =>
    have hne' : document ≠ other := fun h => hne (congrArg some h)
    simp only [Editor.act]
    split
    · exact ⟨overlayOf?_openDocument_ne hne' id,
        fun j hj => he.overlay_openDocument_ne hne' hj id⟩
    · exact ⟨rfl, fun _ _ => rfl⟩
  | closeDocument document =>
    have hne' : document ≠ other := fun h => hne (congrArg some h)
    refine ⟨?_, fun j hj => he.overlay_closeDocument_ne hne' hj⟩
    exact (overlayOf?_closeDocument e document other).trans (if_neg hne')
  | lookUp document => exact ⟨rfl, fun _ _ => rfl⟩
  | annotate document a =>
    have hne' : document ≠ other := fun h => hne (congrArg some h)
    simp only [Editor.act]
    split
    · next id hid =>
      refine ⟨overlayOf?_annotate e id a other, fun j hj => overlay_annotate_ne ?_ e a⟩
      rintro rfl
      exact hne' (he.own hid hj)
    · exact ⟨rfl, fun _ _ => rfl⟩
  | clear document =>
    have hne' : document ≠ other := fun h => hne (congrArg some h)
    exact ⟨overlayOf?_vacate e document other, fun j hj => he.overlay_vacate_other hne' hj⟩

/-- **No marker is left behind.** Whatever was done with open documents, each has one overlay, which
is its own; an overlay that was dropped is blank; and a surface shows exactly the markers of the
annotations that open documents have on it. Opening a document where it is open changes nothing,
and opening it elsewhere gives it a blank overlay there. A document that was closed is not open.
What is done with one document does not change the overlay of another. -/
theorem no_marker_left_behind (actions : List Action) :
    let e := Editor.empty.run actions
    (e.documents.keys.Nodup ∧ ∀ document other id, e.overlayOf? document = some id →
      e.overlayOf? other = some id → document = other) ∧
    (∀ id, (∀ document, e.overlayOf? document ≠ some id) → (e.overlay id).IsBlank) ∧
    (∀ j, ((e.surface j).markers.map (·.2)).Perm (e.documentMarkers j)) ∧
    (∀ document id, e.overlayOf? document = some id →
      e.openDocument document (e.overlay id).surface = (e, id)) ∧
    (∀ document j, let opened := e.openDocument document j
      opened.1.overlayOf? document = some opened.2 ∧
      (opened.1.overlay opened.2).surface = j ∧
      (e.overlayOf? document ≠ some opened.2 → (opened.1.overlay opened.2).IsBlank)) ∧
    (∀ document, (e.closeDocument document).1.overlayOf? document = none ∧
      ((e.closeDocument document).2 = true ↔ ∃ id, e.overlayOf? document = some id)) ∧
    (∀ action other, action.document? ≠ some other →
      (e.act action).overlayOf? other = e.overlayOf? other ∧
      ∀ id, e.overlayOf? other = some id → (e.act action).overlay id = e.overlay id) := by
  intro e
  have he : e.Registered := Registered.empty.run actions
  refine ⟨⟨he.nodup, fun document other id => he.own⟩, fun id => he.blank, he.markers_perm,
    fun document id => openDocument_same, ?_, ?_, fun action other => he.act_other⟩
  · intro document j opened
    refine ⟨overlayOf?_openDocument e document j, ?_⟩
    rcases openDocument_cases e document j with ⟨current, hcurrent, hsurface, hopened⟩ | hopened
    · rw [show opened = (e, current) from hopened]
      exact ⟨hsurface, fun hnew => absurd hcurrent hnew⟩
    · rw [show opened = ((e.vacate document).enrol document j, e.overlays.length) from hopened,
        overlay_enrol, length_vacate, if_pos rfl]
      exact ⟨rfl, fun _ => ⟨rfl, rfl⟩⟩
  · intro document
    rw [closeDocument_eq]
    refine ⟨?_, Option.isSome_iff_exists⟩
    rw [overlayOf?_forget, if_pos rfl]

/-- Two documents on one surface: opening the first elsewhere leaves the marker of the second. -/
example :
    let e := Editor.empty.run
      [.addSurface ["a", "bc"], .addSurface ["d"], .openDocument "x" 0, .openDocument "y" 0,
        .annotate "x" ⟨1, "p", ""⟩, .annotate "y" ⟨2, "q", ""⟩, .openDocument "x" 1]
    (e.surface 0).markers.map (·.2) = [⟨2, 2, " q", "q"⟩] ∧ (e.surface 1).markers = [] := by
  decide

end VarsAdvisor.Editor

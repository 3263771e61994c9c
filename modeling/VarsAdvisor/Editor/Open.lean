import VarsAdvisor.Editor.Overlay

/-!
# Open documents

Each open document has one overlay. Opening it on another surface replaces the overlay, and closing
it removes the overlay; the markers of the overlay that goes are disposed of.
-/

namespace VarsAdvisor.Editor

/-- Opens a document on a surface. On the surface that it is open on, its overlay stays. -/
def openDocument (e : Editor) (document : String) (id : SurfaceId) : Editor × OverlayId :=
  let replace (e : Editor) : Editor × OverlayId :=
    let (e, new) := e.addOverlay id
    ({ e with documents := e.documents.put document new }, new)
  match e.documents.get? document with
  | none => replace e
  | some current =>
    if (e.overlay current).surface = id then (e, current) else replace (e.clear current)

/-- The overlay of an open document. -/
def overlayOf? (e : Editor) (document : String) : Option OverlayId :=
  e.documents.get? document

/-- Closes a document; whether it was open. -/
def closeDocument (e : Editor) (document : String) : Editor × Bool :=
  match e.documents.get? document with
  | none => (e, false)
  | some current => ({ e with documents := e.documents.erase document }.clear current, true)

end VarsAdvisor.Editor

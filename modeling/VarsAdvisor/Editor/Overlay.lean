import VarsAdvisor.Editor.Surface

/-!
# Overlays

An overlay annotates lines of one surface. A line holds at most one annotation: the first one stays
until the overlay is cleared. Each annotation has a marker on the surface, and clearing disposes of
the markers, those whose handles fail included.
-/

namespace VarsAdvisor

open VarsAdvisor.Text

/-- Advice about a line, and who gives it. -/
structure Annotation where
  line : Int
  text : WideText
  source : String
  deriving DecidableEq, Repr

/-- The annotations of a surface's lines, and the handles of their markers. -/
structure Overlay where
  surface : SurfaceId
  annotations : Table Int Annotation
  handles : Table Int Handle
  deriving Repr

/-- An overlay without annotations. -/
def Overlay.onSurface (surface : SurfaceId) : Overlay :=
  ⟨surface, [], []⟩

/-- The annotations by line. -/
def Overlay.sorted (o : Overlay) : List Annotation :=
  (o.annotations.map (·.2)).mergeSort fun a b => a.line ≤ b.line

/-- The surfaces and overlays in use, and the overlay of each open document. -/
structure Editor where
  surfaces : List Surface
  overlays : List Overlay
  documents : Table String OverlayId
  nextMarker : Nat
  deriving Repr

namespace Editor

/-- Nothing is open. -/
def empty : Editor := ⟨[], [], [], 0⟩

/-! ## Surfaces -/

/-- A further surface. -/
def addSurface (e : Editor) (s : Surface) : Editor × SurfaceId :=
  ({ e with surfaces := e.surfaces ++ [s] }, e.surfaces.length)

/-- The surface of an identity. One that is not in use has no lines. -/
def surface (e : Editor) (id : SurfaceId) : Surface :=
  e.surfaces.getD id (.ofLines [])

/-- Changes a surface. -/
def setSurface (e : Editor) (id : SurfaceId) (s : Surface) : Editor :=
  { e with surfaces := e.surfaces.set id s }

/-- Makes a marker; the surface keeps it unless its line is broken. -/
def createMarker (e : Editor) (id : SurfaceId) (m : Marker) : Editor × Handle :=
  let s := e.surface id
  let broken := s.brokenLines.contains m.line
  let kept := if broken then s else { s with markers := s.markers.put e.nextMarker m }
  ({ e.setSurface id kept with nextMarker := e.nextMarker + 1 }, ⟨id, e.nextMarker, broken⟩)

/-- Disposes of a marker, if its handle is not broken. A second time changes nothing. -/
def dispose? (e : Editor) (h : Handle) : Option Editor :=
  if h.broken then none
  else
    let s := e.surface h.surface
    some (e.setSurface h.surface { s with markers := s.markers.erase h.number })

/-- Disposes of a marker, or forgets it if that fails. -/
def release (e : Editor) (h : Handle) : Editor :=
  (e.dispose? h).getD e

/-! ## Overlays -/

/-- A further overlay, on a surface. -/
def addOverlay (e : Editor) (id : SurfaceId) : Editor × OverlayId :=
  ({ e with overlays := e.overlays ++ [.onSurface id] }, e.overlays.length)

/-- The overlay of an identity. One that is not in use has no annotations. -/
def overlay (e : Editor) (id : OverlayId) : Overlay :=
  e.overlays.getD id (.onSurface 0)

/-- Changes an overlay. -/
def setOverlay (e : Editor) (id : OverlayId) (o : Overlay) : Editor :=
  { e with overlays := e.overlays.set id o }

/-- The surface below an overlay. -/
def surfaceOf (e : Editor) (id : OverlayId) : Surface :=
  e.surface (e.overlay id).surface

/-- The marker of an annotation stands behind the line's last character. -/
def markerFor (s : Surface) (a : Annotation) : Marker :=
  ⟨a.line, s.lineLength a.line, " " ++ a.text, a.text⟩

/-- An annotation is taken where the line exists and has none yet. -/
def accepts (e : Editor) (id : OverlayId) (line : Int) : Bool :=
  !(e.overlay id).annotations.has line && (e.surfaceOf id).hasLine line

/-- Annotates a line, if that is possible; whether it was. -/
def annotate (e : Editor) (id : OverlayId) (a : Annotation) : Editor × Bool :=
  if e.accepts id a.line then
    let o := e.overlay id
    let (e, handle) := e.createMarker o.surface (markerFor (e.surface o.surface) a)
    (e.setOverlay id
      { o with annotations := o.annotations.put a.line a, handles := o.handles.put a.line handle },
      true)
  else (e, false)

/-- Annotates lines one after the other. -/
def annotateAll (e : Editor) (id : OverlayId) (as : List Annotation) : Editor :=
  as.foldl (fun e a => (e.annotate id a).1) e

/-- Removes all annotations of an overlay with their markers. -/
def clear (e : Editor) (id : OverlayId) : Editor :=
  let o := e.overlay id
  let e := (o.handles.map (·.2)).foldl release e
  e.setOverlay id (.onSurface o.surface)

end Editor

end VarsAdvisor

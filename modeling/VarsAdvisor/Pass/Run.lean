import VarsAdvisor.Pass.Evidence

/-!
# Running a pass

A pass clears the overlay of its document, gathers evidence, and only then annotates, all at once.
So a pass that breaks off or is cancelled leaves the overlay empty.
-/

namespace VarsAdvisor

/-- What a pass does first. -/
def Editor.beginPass (e : Editor) (overlay : OverlayId) : Editor :=
  e.clear overlay

/-- The work of a pass whose overlay has been cleared. -/
def Crew.work (crew : Crew) (a : Assignment) (e : Editor) (overlay : OverlayId) : Script Evidence :=
  crew.gather a (e.surfaceOf overlay).document

/-- Shows what was found. -/
def Editor.publish (e : Editor) (overlay : OverlayId) (evidence : Evidence) : Editor :=
  e.annotateAll overlay evidence.annotations

/-- The report on what was found and what the overlay shows of it. -/
def Editor.reportOn (e : Editor) (overlay : OverlayId) (a : Assignment) (evidence : Evidence) :
    PassReport :=
  ⟨a.document, evidence, (e.overlay overlay).sorted⟩

/-- Shows what was found, if anything was. -/
def Editor.conclude (e : Editor) (overlay : OverlayId) (a : Assignment) :
    Ending Evidence → Ending PassReport × Editor
  | .done evidence =>
    let e := e.publish overlay evidence
    (.done (e.reportOn overlay a evidence), e)
  | .failed f => (.failed f, e)
  | .cancelled => (.cancelled, e)

/-- Runs a pass from its beginning to its end. -/
def runPass {σ : Type} (c : Collaborators σ) (crew : Crew) (a : Assignment) (overlay : OverlayId)
    (e : Editor) (s : σ) : Ending PassReport × Editor × σ :=
  let e := e.beginPass overlay
  let (ending, s) := (crew.work a e overlay).run c s
  let (ending, e) := e.conclude overlay a ending
  (ending, e, s)

end VarsAdvisor

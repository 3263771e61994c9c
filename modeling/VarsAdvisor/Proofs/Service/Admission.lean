import VarsAdvisor.Proofs.Editor.View
import VarsAdvisor.Proofs.Except
import VarsAdvisor.Proofs.Service.Copy
import VarsAdvisor.Proofs.Text.WideText
import VarsAdvisor.Service.Handle

/-!
# What comes of a request

A request is turned down and changes nothing, or it does one of four things (`Service.Handled`): a
validation passes its checks, a document is shown, a document is closed, or the chat model's health
is asked for. A validation that passes its checks opens its document on a new surface and runs a
pass, and leaves the files as they were (`Service.Passed`). All that is said about requests is said
about these cases.
-/

namespace VarsAdvisor

open VarsAdvisor.Text

/-! ## Paths of requests -/

theorem pathOf_ok {s : Settings} {t : Tree} {name : String} {p : Path}
    (h : s.pathOf t name = .ok p) :
    p = .resolve ⟨"/", t.base⟩ (s.workspace.append (.ofText name)) := by
  unfold Settings.pathOf at h
  dsimp only at h
  split at h
  · cases h
  · exact (Except.ok.inj h).symm

theorem plain_pathOf {s : Settings} {t : Tree} {name : String} {p : Path}
    (h : s.pathOf t name = .ok p) : p.IsPlain :=
  pathOf_ok h ▸ Path.plain_resolve _ _

/-- If the workspace and the working directory are made of names, so is what a request means. -/
theorem isName_pathOf {s : Settings} {t : Tree} {name : String} {p : Path}
    (h : s.pathOf t name = .ok p) (hworkspace : ∀ c ∈ s.workspace.parts, IsName c)
    (hbase : ∀ c ∈ t.base, IsName c) : ∀ c ∈ p.parts, IsName c := by
  rw [pathOf_ok h]
  refine Path.isName_resolve hbase (Path.isName_append hworkspace fun c hc => ?_)
  exact Path.isName_of_mem_partsOf hc

theorem fileOf_ok {s : Settings} {t : Tree} {missing : Rejection} {name : String} {p : Path}
    (h : s.fileOf t missing name = .ok p) : s.pathOf t name = .ok p ∧ t.isFile p = true := by
  unfold Settings.fileOf at h
  obtain ⟨q, hq, h⟩ := except_bind_ok.1 h
  split at h
  · cases h
  · split at h
    · next hfile =>
      cases h
      exact ⟨hq, hfile⟩
    · cases h

/-- What the checks of a validation find out. -/
structure Validation.Clears (v : Validation) (s : Settings) (t : Tree) (c : Cleared) : Prop where
  path : s.pathOf t v.path = .ok c.document
  isFile : t.isFile c.document = true
  lines : ∃ text, v.textOf t c.document = .ok text ∧ c.lines = Text.lines text

theorem Validation.check_ok {v : Validation} {s : Settings} {t : Tree} {c : Cleared}
    (h : v.check s t = .ok c) : v.Clears s t c := by
  unfold check at h
  obtain ⟨document, hdocument, h⟩ := except_bind_ok.1 h
  obtain ⟨workflow, -, h⟩ := except_bind_ok.1 h
  obtain ⟨schema, -, h⟩ := except_bind_ok.1 h
  obtain ⟨sample, -, h⟩ := except_bind_ok.1 h
  obtain ⟨schemaText, -, h⟩ := except_bind_ok.1 h
  obtain ⟨text, htext, h⟩ := except_bind_ok.1 h
  cases h
  obtain ⟨hpath, hfile⟩ := fileOf_ok hdocument
  exact ⟨hpath, hfile, text, htext, rfl⟩

/-! ## Validations that pass their checks -/

/-- What the tools are to check, and the files as they find them: the document, or a copy that holds
the text that is not saved. -/
inductive Laid (t : Tree) (document : Path) : Option WideText → Option Path → Tree → Prop
  | saved : Laid t document none none t
  | copied {text : String} {copy : Path} {t' : Tree} (h : t.HoldsCopy document text copy t') :
      Laid t document (some text) (some copy) t'

theorem Laid.base {t t' : Tree} {document : Path} {text : Option WideText} {source : Option Path}
    (h : Laid t document text source t') : t'.base = t.base := by
  cases h with
  | saved => rfl
  | copied h => exact h.base

/-- A document that a request names has the same place in every directory. -/
theorem key_of_pathOf {s : Settings} {t : Tree} {name : String} {a : Assignment}
    (h : s.pathOf t name = .ok a.document) (directory : Path) (overlay : OverlayId) :
    Job.key ⟨directory, a, overlay⟩ = a.document.text :=
  congrArg Path.text (Path.resolve_of_plain directory (plain_pathOf h))

namespace Desk

/-! ### Copies -/

section Copies

variable {t : Tree} {document copy : Path} {marks : List Mark}

theorem layCopy_of_taken (h : t.freshCopy? document marks = none) (e : Editor) (text : WideText) :
    layCopy ⟨t, e⟩ document marks (some text) = (.error (.breakdown .noFreshName), ⟨t, e⟩) := by
  unfold layCopy
  dsimp only
  rw [h]

theorem layCopy_of_longName (h : t.freshCopy? document marks = some copy)
    (hlong : t.asksLongName copy = true) (e : Editor) (text : WideText) :
    layCopy ⟨t, e⟩ document marks (some text) = (.error (.breakdown .longName), ⟨t, e⟩) := by
  unfold layCopy
  dsimp only
  rw [h]
  exact if_pos hlong

theorem layCopy_of_surrogate (h : t.freshCopy? document marks = some copy)
    (hshort : t.asksLongName copy = false) (e : Editor) {text : WideText}
    (htext : text.string? = none) :
    layCopy ⟨t, e⟩ document marks (some text) = (.error (.breakdown .surrogate), ⟨t, e⟩) := by
  unfold layCopy
  dsimp only
  rw [h, htext]
  dsimp only
  rw [hshort]
  rfl

theorem layCopy_of_string (h : t.freshCopy? document marks = some copy)
    (hshort : t.asksLongName copy = false) (e : Editor) (text : String) :
    layCopy ⟨t, e⟩ document marks (some text) =
      (.ok (some copy), ⟨t.add copy.parts (.file (Utf8.bytesOf text)), e⟩) := by
  unfold layCopy
  dsimp only
  rw [h, WideText.string?_ofString]
  dsimp only
  rw [hshort]
  rfl

/-- When the copy of a text is removed again, the files are as they were. -/
theorem removeCopy_freshCopy (hp : document.IsPlain) (hfile : t.isFile document = true)
    (hcopy : t.freshCopy? document marks = some copy) (text : String) (e : Editor) :
    removeCopy ⟨t.add copy.parts (.file (Utf8.bytesOf text)), e⟩ (some copy) = ⟨t, e⟩ := by
  unfold removeCopy
  dsimp only
  rw [Tree.remove_freshCopy hp hfile hcopy]

/-- What is to be checked is laid out, and can be removed without a trace; or there is no place for
it, and nothing is changed. -/
theorem layCopy_cases (hp : document.IsPlain) (hfile : t.isFile document = true)
    (marks : List Mark) (text : Option WideText) :
    (∃ b, ∀ e, layCopy ⟨t, e⟩ document marks text = (.error (.breakdown b), ⟨t, e⟩)) ∨
      ∃ source t', Laid t document text source t' ∧
        (∀ e, removeCopy ⟨t', e⟩ source = ⟨t, e⟩) ∧
        ∀ e, layCopy ⟨t, e⟩ document marks text = (.ok source, ⟨t', e⟩) := by
  cases text with
  | none => exact .inr ⟨none, t, .saved, fun _ => rfl, fun _ => rfl⟩
  | some text =>
    cases hcopy : t.freshCopy? document marks with
    | none => exact .inl ⟨_, fun e => layCopy_of_taken hcopy e text⟩
    | some copy =>
      cases hname : t.asksLongName copy with
      | true => exact .inl ⟨_, fun e => layCopy_of_longName hcopy hname e text⟩
      | false =>
        cases hstring : text.string? with
        | none => exact .inl ⟨_, fun e => layCopy_of_surrogate hcopy hname e hstring⟩
        | some string =>
          obtain rfl := WideText.string?_eq_some_iff.1 hstring
          exact .inr ⟨some copy, _, .copied (Tree.holdsCopy_add hp hfile hcopy string),
            removeCopy_freshCopy hp hfile hcopy string,
            fun e => layCopy_of_string hcopy hname e string⟩

end Copies

/-! ### Admission -/

variable {d : Desk} {s : Settings} {marks : List Mark} {v : Validation} {c : Cleared}

theorem receive_of_error {r : Rejection} (h : v.check s d.tree = .error r) (marks : List Mark) :
    d.receive s marks v = (.error r, d) := by
  unfold receive
  rw [h]

/-- A validation that passes its checks opens its document and is admitted if its text is laid. -/
theorem receive_of_layCopy (h : v.check s d.tree = .ok c) {source : Option Path} {t : Tree}
    (hbase : t.base = d.tree.base)
    (hlay : ∀ e, layCopy ⟨d.tree, e⟩ c.document marks v.text = (.ok source, ⟨t, e⟩)) :
    d.receive s marks v = (.ok (d.jobOn c (d.editor.present c.document.text c.lines).2 source),
      ⟨t, (d.editor.present c.document.text c.lines).1⟩) := by
  unfold receive jobOn
  rw [h]
  dsimp only [openOn]
  rw [hlay, ← hbase]
  rfl

theorem receive_of_layCopy_error (h : v.check s d.tree = .ok c) {r : Rejection}
    (hlay : ∀ e, layCopy ⟨d.tree, e⟩ c.document marks v.text = (.error r, ⟨d.tree, e⟩)) :
    d.receive s marks v =
      (.error r, ⟨d.tree, (d.editor.present c.document.text c.lines).1⟩) := by
  unfold receive
  rw [h]
  dsimp only [openOn]
  rw [hlay]
  rfl

/-- A validation that passes its checks is admitted, unless there is no place for its copy. -/
theorem receive_cases (h : v.check s d.tree = .ok c) (marks : List Mark) :
    let opened := d.editor.present c.document.text c.lines
    (∃ b, d.receive s marks v = (.error (.breakdown b), ⟨d.tree, opened.1⟩)) ∨
      ∃ source t, Laid d.tree c.document v.text source t ∧
        (∀ e, removeCopy ⟨t, e⟩ source = ⟨d.tree, e⟩) ∧
        d.receive s marks v = (.ok (d.jobOn c opened.2 source), ⟨t, opened.1⟩) := by
  intro opened
  have hclears := Validation.check_ok h
  obtain ⟨b, hlay⟩ | ⟨source, t, hlaid, hremove, hlay⟩ :=
    layCopy_cases (plain_pathOf hclears.path) hclears.isFile marks v.text
  · exact .inl ⟨b, receive_of_layCopy_error h hlay⟩
  · exact .inr ⟨source, t, hlaid, hremove, receive_of_layCopy h hlaid.base hlay⟩

end Desk

namespace Service

variable {σ : Type} {o : Outside σ} {s : Service σ}

/-- What comes of a validation that passes its checks: its document is opened, and a pass is run
while its text lies where the tools find it, unless there is no place for the text. The files are
the same afterwards. -/
inductive Passed (o : Outside σ) (s : Service σ) (v : Validation) (c : Cleared) :
    Option Answer × Service σ → Prop
  | noPlace (b : Breakdown) : Passed o s v c (some (.rejected (.breakdown b)),
      { s with desk := ⟨s.desk.tree, (s.desk.editor.present c.document.text c.lines).1⟩ })
  | ran {source : Option Path} {t : Tree} {ending : Ending PassReport} {e : Editor}
      {connection : Connection} {outside : σ} (hlaid : Laid s.desk.tree c.document v.text source t)
      (hrun : runPass (o.collaborators s.settings t) s.settings.crew
        ⟨c.document, c.schema, c.context, source⟩
        (s.desk.editor.present c.document.text c.lines).2
        (s.desk.editor.present c.document.text c.lines).1 (s.connection, s.outside) =
          (ending, e, connection, outside)) :
      Passed o s v c
        (Desk.answerTo ⟨s.desk.tree, e⟩
          (s.desk.jobOn c (s.desk.editor.present c.document.text c.lines).2 source) ending,
        ⟨s.settings, ⟨s.desk.tree, e⟩, connection, outside⟩)

theorem validate_of_error {v : Validation} {r : Rejection}
    (h : v.check s.settings s.desk.tree = .error r) :
    s.validate o v = (some (.rejected r), s) := by
  unfold validate
  rw [Desk.receive_of_error h]

/-- What comes of a validation that is admitted, when the files are as before afterwards. -/
theorem validate_of_receive {v : Validation} {job : Job} {t : Tree} {e e' : Editor}
    {ending : Ending PassReport} {connection : Connection} {outside : σ}
    (hreceive : s.desk.receive s.settings (o.marks s.outside) v = (.ok job, ⟨t, e⟩))
    (hremove : ∀ e, Desk.removeCopy ⟨t, e⟩ job.assignment.source = ⟨s.desk.tree, e⟩)
    (hrun : runPass (o.collaborators s.settings t) s.settings.crew job.assignment job.overlay e
      (s.connection, s.outside) = (ending, e', connection, outside)) :
    s.validate o v = (Desk.answerTo ⟨s.desk.tree, e'⟩ job ending,
      ⟨s.settings, ⟨s.desk.tree, e'⟩, connection, outside⟩) := by
  unfold validate Desk.dismiss
  rw [hreceive]
  dsimp only
  rw [hrun]
  dsimp only
  rw [hremove]

theorem passed_validate {v : Validation} {c : Cleared}
    (h : v.check s.settings s.desk.tree = .ok c) : Passed o s v c (s.validate o v) := by
  obtain ⟨b, hreceive⟩ | ⟨source, t, hlaid, hremove, hreceive⟩ :=
    Desk.receive_cases h (o.marks s.outside)
  · unfold validate
    rw [hreceive]
    exact .noPlace b
  · obtain ⟨⟨ending, e, connection, outside⟩, hrun⟩ : ∃ result,
        runPass (o.collaborators s.settings t) s.settings.crew
          ⟨c.document, c.schema, c.context, source⟩
          (s.desk.editor.present c.document.text c.lines).2
          (s.desk.editor.present c.document.text c.lines).1 (s.connection, s.outside) = result :=
      ⟨_, rfl⟩
    rw [validate_of_receive hreceive hremove hrun]
    exact .ran hlaid hrun

/-! ## All requests -/

theorem handle_validate {r : Request} {v : Validation}
    (hroute : route r.method r.path = .ok .validate) (hbody : Validation.ofBody r.body = .ok v) :
    s.handle o r = s.validate o v := by
  unfold handle
  rw [hroute]
  dsimp only [perform]
  rw [hbody]

/-- What comes of a request: it is turned down, and nothing changes; or a validation passes its
checks; or a document is shown or closed; or the model's health is told, for which the files and the
open documents do not matter. -/
inductive Handled (o : Outside σ) (s : Service σ) (r : Request) : Option Answer × Service σ → Prop
  | turnedDown (x : Rejection) : Handled o s r (some (.rejected x), s)
  | passed {v : Validation} {c : Cleared} {result : Option Answer × Service σ}
      (hroute : route r.method r.path = .ok .validate) (hbody : Validation.ofBody r.body = .ok v)
      (hcheck : v.check s.settings s.desk.tree = .ok c) (hpassed : Passed o s v c result) :
      Handled o s r result
  | shown (hroute : route r.method r.path = .ok .annotations) (document : String)
      (annotations : List Annotation) (markers : List Marker) :
      Handled o s r (some (.shown document annotations markers), s)
  | closed {name : String} {p : Path} (hroute : route r.method r.path = .ok .close)
      (hname : r.document = .ok name) (hpath : s.settings.pathOf s.desk.tree name = .ok p) :
      Handled o s r (some (.closed (s.desk.editor.closeDocument p.text).2),
        { s with desk := ⟨s.desk.tree, (s.desk.editor.closeDocument p.text).1⟩ })
  | health (hroute : route r.method r.path = .ok .health) (reachable : Bool)
      (connection : Connection) (outside : σ) :
      Handled o s r (some (.health s.settings reachable),
        { s with connection := connection, outside := outside })
  | unhealthy (hroute : route r.method r.path = .ok .health) (fault : ChatFault)
      (connection : Connection) (outside : σ) :
      Handled o s r (some (.rejected (.breakdown (.chat fault))),
        { s with connection := connection, outside := outside })

theorem handled_handle (o : Outside σ) (s : Service σ) (r : Request) :
    Handled o s r (s.handle o r) := by
  unfold handle
  cases hroute : route r.method r.path with
  | error stray => exact .turnedDown _
  | ok action =>
    cases action with
    | validate =>
      dsimp only [perform]
      cases hbody : Validation.ofBody r.body with
      | error u => exact .turnedDown _
      | ok v =>
        dsimp only
        cases hcheck : v.check s.settings s.desk.tree with
        | error x =>
          rw [validate_of_error hcheck]
          exact .turnedDown x
        | ok c => exact .passed hroute hbody hcheck (passed_validate hcheck)
    | annotations =>
      dsimp only [perform]
      cases hname : r.document with
      | error u => exact .turnedDown _
      | ok name =>
        dsimp only [Desk.showAnnotations]
        split
        · exact .turnedDown _
        · split
          · exact .shown hroute _ _ _
          · exact .turnedDown _
    | close =>
      dsimp only [perform]
      cases hname : r.document with
      | error u => exact .turnedDown _
      | ok name =>
        dsimp only [Desk.closeDocument]
        cases hpath : s.settings.pathOf s.desk.tree name with
        | error x => exact .turnedDown x
        | ok p => exact .closed hroute hname hpath
    | health =>
      dsimp only [perform, checkHealth]
      split
      · exact .health hroute false s.connection s.outside
      · split
        · exact .health hroute _ _ _
        · exact .unhealthy hroute _ _ _

/-! ## A small workspace -/

/-- A mark of eight letters. -/
def plainMark : Mark :=
  ⟨"XXXXXXXX", rfl, by decide⟩

/-- Tools that find nothing, a network that is down, and one mark. -/
def quietOutside : Outside Unit :=
  ⟨fun _ argv s => (.answer (.ok ⟨argv, 0, "", ""⟩), s), fun _ s => (.error ⟨"closed", ""⟩, s),
    fun _ => [plainMark]⟩

/-- A service without a chat model over a workspace that holds an empty file. -/
def small : Service (Unit × List Outside.Sighting × List ChatRequest) :=
  ⟨{ Settings.standard ⟨"/", ["ws"]⟩ with provider := none },
    ⟨⟨[(["ws"], .directory), (["ws", "v.yml"], .file [])], ["ws"]⟩, .empty⟩, .fresh, (), [], []⟩

def validationRequest (form : List (WideText × Json)) : Request :=
  ⟨"POST", "/api/validate", [], Text.Utf8.bytesOf (Json.obj form).text⟩

end Service

end VarsAdvisor

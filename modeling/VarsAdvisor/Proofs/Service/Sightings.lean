import VarsAdvisor.Proofs.Pass.Work
import VarsAdvisor.Proofs.Service.Admission

/-!
# What tools see

The record of a service shows what each tool was told to check and the files as they were then. In
one validation all tools are told to check the same file while the files stay the same: the
document, or the copy that holds its text that is not saved (`tools_see_unsaved_text`).
-/

namespace VarsAdvisor

open Suggestion Outside

variable {σ : Type}

/-! ## Requests to the model -/

/-- What a network keeps is kept by an exchange with a chat model over it. -/
theorem ChatModel.exchange_keeps {network : Network σ} {kept : σ → Prop}
    (hnetwork : ∀ r s, kept s → kept (network r s).2) (m : ChatModel)
    (make : Url → Except ChatFault ChatRequest) (c : Connection) {s : σ} (hs : kept s) :
    kept (m.exchange network make c s).2.2 := by
  unfold exchange
  split
  · exact hs
  · dsimp only
    split
    · exact hs
    · next r _ =>
      have hasked := hnetwork r s hs
      split
      · next reply s' heq => rwa [heq] at hasked
      · next fault s' heq => rwa [heq] at hasked

theorem ChatModel.generate_keeps {network : Network σ} {kept : σ → Prop}
    (hnetwork : ∀ r s, kept s → kept (network r s).2) (m : ChatModel) (p : Prompt)
    (c : Connection) {s : σ} (hs : kept s) : kept (m.generate network p c s).2.2 := by
  have hasked := m.exchange_keeps hnetwork (m.promptRequest p) c hs
  unfold generate
  split
  · next e c' s' heq => rwa [heq] at hasked
  · next r reply c' s' heq => rwa [heq] at hasked

theorem Outside.ask_keeps {o : Outside σ} {kept : σ → Prop}
    (hnetwork : ∀ r s, kept s → kept (o.network r s).2) (model : Option ChatModel) (p : Prompt)
    {s : Connection × σ} (hs : kept s.2) : kept (o.ask model p s).2.2 := by
  unfold ask
  split
  · exact hs
  · next m => exact m.generate_keeps hnetwork p s.1 hs

/-! ## The record of a pass -/

/-- The record has grown by runs of tools that were all given the same file while the files were as
in `t`. -/
def Watched (old : List Sighting) (t : Tree) (file : Path)
    (s : σ × List Sighting × List ChatRequest) : Prop :=
  ∃ seen, s.2.1 = old ++ seen ∧ ∀ g ∈ seen, g.argv.getLast? = some file.text ∧ g.tree = t

theorem watched_runPass (o : Outside σ) (settings : Settings) (t : Tree) (a : Assignment)
    (id : OverlayId) (e : Editor) (s : Connection × σ × List Sighting × List ChatRequest) :
    Watched s.2.2.1 t a.checked
      (runPass (o.recorded.collaborators settings t) settings.crew a id e s).2.2.2 := by
  obtain ⟨⟨ending, s'⟩, hrun⟩ : ∃ result,
      (settings.crew.work a (e.beginPass id) id).run (o.recorded.collaborators settings t) s =
        result := ⟨_, rfl⟩
  have hobeys := settings.crew.obeys_gather a ((e.beginPass id).surfaceOf id).document
  have hkept := hobeys.keeps (c := o.recorded.collaborators settings t)
    (p := fun s' => Watched s.2.2.1 t a.checked s'.2) ?_ ?_ (s := s)
    ⟨[], (List.append_nil _).symm, fun g hg => absurd hg List.not_mem_nil⟩
  · rw [runPass_of_run hrun]
    unfold Crew.work at hrun
    rwa [hrun] at hkept
  · rintro argv hargv s' ⟨seen, hseen, hall⟩
    refine ⟨seen ++ [⟨argv, t⟩], ?_, ?_⟩
    · show s'.2.2.1 ++ [⟨argv, t⟩] = _
      rw [hseen, List.append_assoc]
    · intro g hg
      rcases List.mem_append.1 hg with hold | hnew
      · exact hall g hold
      · rw [List.mem_singleton.1 hnew]
        exact ⟨Crew.getLast?_of_mem_plan hargv, rfl⟩
  · intro prompt s' hs'
    have hnetwork : ∀ r s', Watched s.2.2.1 t a.checked s' →
        Watched s.2.2.1 t a.checked (o.recorded.network r s').2 := fun r s' h => h
    exact ask_keeps hnetwork _ prompt hs'

/-! ## The record of a validation -/

/-- A tool that is told to check a copy reads the text that the copy holds. -/
theorem Tree.HoldsCopy.checkedBytes {t : Tree} {document copy : Path} {text : String} {g : Sighting}
    (h : t.HoldsCopy document text copy g.tree) (hroot : document.root = "/")
    (hnames : ∀ c ∈ document.parts, IsName c) (hlast : g.argv.getLast? = some copy.text) :
    g.checkedBytes? = some text.toUTF8.data.toList := by
  have hcopyRoot : copy.root = "/" := (congrArg Path.root h.beside).trans hroot
  unfold Sighting.checkedBytes?
  rw [List.getLastD_eq_getLast?, hlast, Option.getD_some,
    Path.ofText_text hcopyRoot (h.names hnames), h.content]

namespace Service

section Recorded

variable {o : Outside σ} {s : Service (σ × List Sighting × List ChatRequest)} {v : Validation}
  {c : Cleared} {result : Option Answer × Service (σ × List Sighting × List ChatRequest)}

theorem Passed.tree (h : Passed o.recorded s v c result) : result.2.desk.tree = s.desk.tree := by
  cases h with
  | noPlace b => rfl
  | ran hlaid hrun => rfl

/-- If a validation that passes its checks runs any tools, they see what was laid for them. -/
theorem Passed.watched (h : Passed o.recorded s v c result) :
    result.2.outside.2.1 = s.outside.2.1 ∨
      ∃ source t, Laid s.desk.tree c.document v.text source t ∧
        Watched s.outside.2.1 t (source.getD c.document) result.2.outside := by
  cases h with
  | noPlace b => exact .inl rfl
  | @ran source t ending e connection outside hlaid hrun =>
    have hwatched := watched_runPass o s.settings t ⟨c.document, c.schema, c.context, source⟩
      (s.desk.editor.present c.document.text c.lines).2
      (s.desk.editor.present c.document.text c.lines).1 (s.connection, s.outside)
    rw [hrun] at hwatched
    exact .inr ⟨source, t, hlaid, hwatched⟩

end Recorded

/-- **Unsaved text is what tools see, and it leaves no trace.** Whatever tools and model do, the
files are the same after a validation as before. If it carries a text, all tools are told to check
one copy of the document, which lies beside it and holds the text while they run; no tool is run if
the text has surrogates. The copy has the document's ending exactly if the document has an ending at
all. A validation without a text has all tools check the document. There are no links among the
files, so the document is the one that the request's path spells when double points are taken back
one by one. -/
theorem tools_see_unsaved_text (o : Outside σ)
    (s : Service (σ × List Sighting × List ChatRequest)) {r : Request} {v : Validation}
    {document : Path} (hroute : route r.method r.path = .ok .validate)
    (hbody : Validation.ofBody r.body = .ok v)
    (hpath : s.settings.pathOf s.desk.tree v.path = .ok document)
    (hfile : s.desk.tree.isFile document = true) :
    let after := (s.handle o.recorded r).2
    after.desk.tree = s.desk.tree ∧
      ∃ seen, after.outside.2.1 = s.outside.2.1 ++ seen ∧
        (∀ sent, v.text = some sent → ∃ copy, ∀ g ∈ seen, g.argv.getLast? = some copy.text ∧
          ∃ text : String, sent = .ofString text ∧ s.desk.tree.HoldsCopy document text copy g.tree ∧
            ((∀ c ∈ s.settings.workspace.parts, IsName c) → (∀ c ∈ s.desk.tree.base, IsName c) →
              g.checkedBytes? = some text.toUTF8.data.toList)) ∧
        (v.text = none → ∀ g ∈ seen, g.argv.getLast? = some document.text ∧
          g.tree = s.desk.tree) := by
  rw [handle_validate hroute hbody]
  cases hcheck : v.check s.settings s.desk.tree with
  | error x =>
    rw [validate_of_error hcheck]
    exact ⟨rfl, [], (List.append_nil _).symm, fun text _ => ⟨document, by simp⟩, by simp⟩
  | ok c =>
    have hclears := Validation.check_ok hcheck
    obtain rfl : c.document = document := Except.ok.inj (hclears.path.symm.trans hpath)
    have hpassed := passed_validate (o := o.recorded) hcheck
    refine ⟨hpassed.tree, ?_⟩
    rcases hpassed.watched with hnone | ⟨source, t, hlaid, seen, hseen, hall⟩
    · exact ⟨[], by rw [hnone, List.append_nil], fun text _ => ⟨c.document, by simp⟩, by simp⟩
    -- The tools were told to check `source`, which is the copy of a text and nothing without one.
    refine ⟨seen, hseen, fun sent hsent => ?_, fun htext => ?_⟩
    · rw [hsent] at hlaid
      cases hlaid with
      | @copied text copy _ hcopy =>
        refine ⟨copy, fun g hg => ?_⟩
        obtain ⟨hlast, rfl⟩ := hall g hg
        refine ⟨hlast, text, rfl, hcopy, fun hworkspace hbase => ?_⟩
        have hnames := isName_pathOf hpath hworkspace hbase
        exact hcopy.checkedBytes (plain_pathOf hpath).root hnames hlast
    · rw [htext] at hlaid
      cases hlaid
      exact hall

/-- A text with a carriage return for an empty file: both linters see a copy that holds the text. -/
theorem tools_see_unsaved_text_crlf :
    ∃ seen, (small.handle quietOutside.recorded
        (validationRequest [("path", .str "v.yml"), ("text", .str "a: 1\r\nb:")])).2.outside.2.1 =
          seen ∧
      seen.map (·.argv) =
        [["ansible-lint", "/ws/.v.XXXXXXXX.yml"], ["yamllint", "/ws/.v.XXXXXXXX.yml"]] ∧
      ∀ g ∈ seen, g.checkedBytes? = some "a: 1\r\nb:".toUTF8.data.toList := by
  have hbody : Validation.ofBody
      (validationRequest [("path", .str "v.yml"), ("text", .str "a: 1\r\nb:")]).body =
        .ok ⟨"v.yml", some "a: 1\r\nb:", none, none, ""⟩ :=
    except_toOption_some.1 (by decide +kernel)
  have hpath : small.settings.pathOf small.desk.tree "v.yml" = .ok ⟨"/", ["ws", "v.yml"]⟩ := rfl
  obtain ⟨-, seen, hseen, hcopied, -⟩ :=
    tools_see_unsaved_text quietOutside small rfl hbody hpath (by decide +kernel)
  obtain ⟨copy, hall⟩ := hcopied _ rfl
  have hname : IsName "ws" := ⟨by decide, by decide, by decide⟩
  have hnames : ∀ c ∈ ["ws"], IsName c := by simpa using hname
  refine ⟨seen, hseen, ?_, fun g hg => ?_⟩
  · have hargv : (small.handle quietOutside.recorded
        (validationRequest [("path", .str "v.yml"), ("text", .str "a: 1\r\nb:")])).2.outside.2.1.map
          (·.argv) =
        [["ansible-lint", "/ws/.v.XXXXXXXX.yml"], ["yamllint", "/ws/.v.XXXXXXXX.yml"]] := by
      decide +kernel
    rwa [hseen] at hargv
  · obtain ⟨-, text, htext, -, hbytes⟩ := hall g hg
    rw [Text.WideText.ofString_inj.1 htext]
    exact hbytes hnames hnames

/-- A small workspace with a document whose name has no ending, and a schema. -/
def unmarked : Service (Unit × List Sighting × List ChatRequest) :=
  { small with desk := ⟨⟨[(["ws"], .directory), (["ws", "v"], .file []),
      (["ws", "s.yml"], .file [])], ["ws"]⟩, .empty⟩ }

/-- The copy of a document without an ending has its mark for an ending. -/
theorem tools_see_mark_as_suffix :
    let after := (unmarked.handle quietOutside.recorded (validationRequest
      [("path", .str "v"), ("schema_path", .str "s.yml"), ("text", .str "a: 1")])).2
    after.outside.2.1.map (·.argv) =
      [["yamale", "-s", "/ws/s.yml", "-v", "/ws/.v.XXXXXXXX"]] ∧
    (Path.ofText "/ws/v").suffix = "" ∧ (Path.ofText "/ws/.v.XXXXXXXX").suffix = ".XXXXXXXX" := by
  decide +kernel

end Service

end VarsAdvisor

import VarsAdvisor.Proofs.Pass.Lockstep
import VarsAdvisor.Proofs.Service.History

/-!
# Requests that fail

A request that is turned down with a reason leaves the whole service as it was, and nobody outside
was asked. A validation that breaks off may have opened its document, but then the document shows
nothing, and all other documents are as they were. Only a report with surrogates in it is in view
although it cannot be sent (`failed_requests_leave_nothing_half_done`).
-/

namespace VarsAdvisor

open VarsAdvisor.Text

/-- Every surface shows what open documents have on it, and what all documents but one have is what
they had before. -/
structure Editor.Spares (e : Editor) (document : String) (e' : Editor) : Prop where
  markers : ∀ j, ((e'.surface j).markers.map (·.2)).Perm (e'.documentMarkers j)
  others : ∀ other, other ≠ document → e'.overlayOf? other = e.overlayOf? other ∧
    ∀ id, e.overlayOf? other = some id → e'.overlay id = e.overlay id ∧
      (e'.surfaceOf id).bare = (e.surfaceOf id).bare

/-- A document is open but shows nothing. -/
def Editor.ShowsNothing (e : Editor) (document : String) : Prop :=
  ∃ id, e.overlayOf? document = some id ∧ (e.overlay id).IsBlank ∧ (e.surfaceOf id).markers = []

theorem Editor.Registered.showsNothing_present {e : Editor} (he : e.Registered) (document : String)
    (lines : List String) : (e.present document lines).1.ShowsNothing document := by
  have halone := he.alone_present document lines
  have hoverlay := he.placed.overlay_present document lines
  refine ⟨_, halone.isOpen, ?_, ?_⟩
  · rw [hoverlay]
    exact ⟨rfl, rfl⟩
  · have hmarkers := halone.documentMarkers (he.present document lines)
    have hperm := (he.present document lines).markers_perm ((e.present document lines).1.overlay
      (e.present document lines).2).surface
    rw [hmarkers, hoverlay] at hperm
    exact List.map_eq_nil_iff.1 (List.perm_nil.1 (by unfold surfaceOf; rw [hoverlay]; exact hperm))

namespace Service

variable {σ : Type} {o : Outside σ} {s : Service σ} {r : Request} {answer : Answer}
  {result : Option Answer × Service σ}

/-- A request that changes anything is not answered with a reason for turning it down. -/
theorem Handled.unchanged (h : Handled o s r result) (hanswer : result.1 = some answer) :
    result.2 = s ∨ (r.respond answer).status = 200 ∨ (r.respond answer).status = 500 := by
  cases h with
  | turnedDown x => exact .inl rfl
  | shown hroute' document annotations markers => exact .inl rfl
  | passed hroute hbody hcheck hpassed =>
    cases hpassed with
    | noPlace b =>
      cases hanswer
      exact .inr (.inr (status_breakdown r _))
    | @ran source t ending e connection outside hlaid hrun =>
      cases ending with
      | done report =>
        cases hanswer
        exact .inr (status_of_not_rejected r (by simp))
      | failed f =>
        cases hanswer
        exact .inr (.inr (status_breakdown r _))
      | cancelled => cases hanswer
  | closed hroute hname hpath =>
    cases hanswer
    exact .inr (status_of_not_rejected r (by simp))
  | health hroute reachable connection outside =>
    cases hanswer
    exact .inr (status_of_not_rejected r (by simp))
  | unhealthy hroute fault connection outside =>
    cases hanswer
    exact .inr (.inr (status_breakdown r _))

/-- A validation leaves other documents alone. -/
theorem Passed.spares {v : Validation} {c : Cleared} (h : Passed o s v c result)
    (he : s.desk.editor.Registered) :
    s.desk.editor.Spares c.document.text result.2.desk.editor := by
  obtain ⟨actions, hactions, hothers⟩ := h.editor he
  rw [hactions]
  exact ⟨(he.run actions).markers_perm, fun other hne => he.run_other (hothers other hne)⟩

/-- A report that cannot be sent: a chat model has worded one of its suggestions with surrogates, or
the syntax finding shows an escape of the document that stands for one. -/
inductive Unsendable (report : PassReport) : Prop
  | suggestion {a : SchemaAnnotation} (hworded : report.evidence.source = some .llm)
      (ha : a ∈ report.evidence.schema) (hsurrogate : a.suggestion.isString = false)
  | syntaxFinding {f : Finding} (hf : report.evidence.syntaxFinding = some f)
      (hsurrogate : f.message.isString = false)

theorem Shows.unsendable {e : Editor} {document : String} {lines : List String}
    {report : PassReport} {markers : List Marker} (h : Shows e document lines report markers)
    (hstatus : (r.respond (.validated report markers)).status = 500) : Unsendable report := by
  rw [h.status] at hstatus
  split at hstatus
  · cases hstatus
  · next hplain =>
    rcases not_and_or.1 hplain with hwords | hfound
    · have hworded := h.worded.suggestions.resolve_right hwords
      simp only [not_forall, Bool.not_eq_true] at hwords
      obtain ⟨a, ha, hsurrogate⟩ := hwords
      exact .suggestion hworded ha hsurrogate
    · simp only [not_forall, Bool.not_eq_true] at hfound
      obtain ⟨f, hf, hsurrogate⟩ := hfound
      exact .syntaxFinding hf hsurrogate

/-- What a validation that breaks off leaves of its document, if it has opened it. -/
theorem Handled.left (h : Handled o s r result) (he : s.desk.editor.Registered)
    (hroute : route r.method r.path = .ok .validate) (hanswer : result.1 = some answer)
    (hstatus : (r.respond answer).status = 500) :
    result.2 = s ∨ result.2.desk.tree = s.desk.tree ∧
      ∃ v document, Validation.ofBody r.body = .ok v ∧
        s.settings.pathOf s.desk.tree v.path = .ok document ∧
        s.desk.editor.Spares document.text result.2.desk.editor ∧
        (result.2.desk.editor.ShowsNothing document.text ∨
          ∃ report markers, answer = .validated report markers ∧ Unsendable report ∧
            result.2.desk.editor.view? document.text = some (report.annotations, markers)) := by
  cases h with
  | turnedDown x => exact .inl rfl
  | shown hroute' document annotations markers => exact .inl rfl
  | @passed v c _ hroute hbody hcheck hpassed =>
    obtain ⟨as, hdesk, htells⟩ := hpassed.leaves he
    have htree : result.2.desk.tree = s.desk.tree := by rw [hdesk]
    refine .inr ⟨htree, v, c.document, hbody, (Validation.check_ok hcheck).path, hpassed.spares he,
      ?_⟩
    rw [hanswer] at htells
    cases htells with
    | @report report hreport has hworded =>
      have hshows := hpassed.shows he hanswer
      exact .inr ⟨report, _, rfl, hshows.unsendable hstatus, hshows.view⟩
    | breakdown hnone b =>
      rw [hdesk, hnone]
      exact .inl (he.showsNothing_present c.document.text c.lines)
  | closed hroute' hname hpath => cases hroute.symm.trans hroute'
  | health hroute' reachable connection outside => cases hroute.symm.trans hroute'
  | unhealthy hroute' fault connection outside => cases hroute.symm.trans hroute'

/-- **A failed request leaves nothing half done.** Whatever requests came before, one that is
answered with a status from 400 to 499 leaves the service as it was, with all that is outside of it:
also when the outside keeps a record of what is asked of it (`Outside.recorded`), so nothing was
asked. A validation that is answered with status 500 leaves the files as they were; and it leaves
everything as it was, or all documents but its own. Its own document shows nothing then, or it shows
the whole of a report that cannot be sent, because a suggestion of a chat model or the message of
the syntax finding has surrogates. There are no links among the files, so the document is the one
that the request's path spells when double points are taken back one by one. -/
theorem failed_requests_leave_nothing_half_done (o : Outside σ) {start : Service σ}
    (hstart : start.desk.editor = .empty) (before : List Event) (r : Request) {answer : Answer}
    (hanswer : ((start.history o before).handle o r).1 = some answer) :
    let s := start.history o before
    let s' := (s.handle o r).2
    (400 ≤ (r.respond answer).status → (r.respond answer).status < 500 → s' = s) ∧
      (route r.method r.path = .ok .validate → (r.respond answer).status = 500 →
        s' = s ∨ s'.desk.tree = s.desk.tree ∧
          ∃ v document, Validation.ofBody r.body = .ok v ∧
            s.settings.pathOf s.desk.tree v.path = .ok document ∧
            s.desk.editor.Spares document.text s'.desk.editor ∧
            (s'.desk.editor.ShowsNothing document.text ∨
              ∃ report markers, answer = .validated report markers ∧ Unsendable report ∧
                s'.desk.editor.view? document.text = some (report.annotations, markers))) := by
  intro s s'
  obtain ⟨actions, hactions⟩ := editor_history o hstart before
  have he : s.desk.editor.Registered := hactions ▸ Editor.Registered.empty.run actions
  have hhandled := handled_handle o s r
  refine ⟨fun hle hlt => ?_, fun hroute hstatus => hhandled.left he hroute hanswer hstatus⟩
  rcases hhandled.unchanged hanswer with hsame | hfine | hbroken
  · exact hsame
  · omega
  · omega

/-- Tools that crash when they check the file itself. -/
def crashingOutside : Outside Unit :=
  { quietOutside with
    tool := fun t argv s =>
      if argv.getLast? = some "/ws/v.yml" then (.crash (.error "ValueError" "broken"), s)
      else quietOutside.tool t argv s }

/-- The report that a validation is answered with. -/
def answeredReport? : Answer → Option PassReport
  | .validated report _ => some report
  | _ => none

/-- A document that is not there is not found; and when a tool crashes, the annotation that was
there before is gone. -/
theorem failed_requests_leave_nothing_half_done_crash :
    let s := small.history crashingOutside.recorded [.request faultyRequest]
    let missing := validationRequest [("path", .str "w.yml")]
    let saved := validationRequest [("path", .str "v.yml")]
    (s.desk.editor.view? "/ws/v.yml").map (·.1.map (·.line)) = some [2] ∧
      (∃ answer, (s.handle crashingOutside.recorded missing).1 = some answer ∧
        (missing.respond answer).status = 404 ∧
        (s.handle crashingOutside.recorded missing).2 = s) ∧
      ∃ answer, (s.handle crashingOutside.recorded saved).1 = some answer ∧
        (saved.respond answer).status = 500 ∧
        (s.handle crashingOutside.recorded saved).2.desk.editor.ShowsNothing "/ws/v.yml" := by
  intro s missing saved
  have hstart : small.desk.editor = .empty := rfl
  have hlines : (s.desk.editor.view? "/ws/v.yml").map (·.1.map (·.line)) = some [2] := by
    decide +kernel
  refine ⟨hlines, ?_, ?_⟩
  · obtain ⟨answer, hanswer, hstatus⟩ := Option.map_eq_some_iff.1 (by decide +kernel :
      (s.handle crashingOutside.recorded missing).1.map
        (fun answer => (missing.respond answer).status) = some 404)
    obtain ⟨hsame, -⟩ := failed_requests_leave_nothing_half_done crashingOutside.recorded hstart
      [.request faultyRequest] missing hanswer
    exact ⟨answer, hanswer, hstatus, hsame (by omega) (by omega)⟩
  · have hran : let ran := s.handle crashingOutside.recorded saved
        ran.1.map (fun answer => ((saved.respond answer).status,
          (answeredReport? answer).isNone)) = some (500, true) ∧
          (ran.2.desk.editor.view? "/ws/v.yml").map (·.1.map (·.line)) = some [] := by
      decide +kernel
    obtain ⟨answer, hanswer, htold⟩ := Option.map_eq_some_iff.1 hran.1
    obtain ⟨hstatus, hreport⟩ := Prod.mk.inj htold
    refine ⟨answer, hanswer, hstatus, ?_⟩
    obtain ⟨-, hbroken⟩ := failed_requests_leave_nothing_half_done crashingOutside.recorded hstart
      [.request faultyRequest] saved hanswer
    have hbody : Validation.ofBody saved.body = .ok ⟨"v.yml", none, none, none, ""⟩ :=
      except_toOption_some.1 (by decide +kernel)
    have hdocument : s.settings.pathOf s.desk.tree "v.yml" = .ok ⟨"/", ["ws", "v.yml"]⟩ :=
      except_toOption_some.1 (by decide +kernel)
    rcases hbroken rfl hstatus with hsame | ⟨-, v, document, hv, hpath, -, hleft⟩
    · have hview := hran.2
      rw [hsame, hlines] at hview
      cases hview
    · cases hv.symm.trans hbody
      cases hpath.symm.trans hdocument
      rcases hleft with hnothing | ⟨report, markers, rfl, -, -⟩
      · exact hnothing
      · cases hreport

/-- A small workspace with a schema and a chat model. -/
def advised : Service Unit :=
  ⟨.standard ⟨"/", ["ws"]⟩, ⟨⟨[(["ws"], .directory), (["ws", "v.yml"], .file (Utf8.bytesOf "a: 1")),
    (["ws", "s.yml"], .file [])], ["ws"]⟩, .empty⟩, .fresh, ()⟩

/-- A reply that suggests a lone surrogate. -/
def surrogateReply : HttpReply :=
  ⟨200, [], Utf8.bytesOf (Json.obj [("message",
    .obj [("content", .str "[\"\\ud800\"]")])]).text⟩

/-- A validator that finds one error, for which a chat model suggests a lone surrogate. -/
def surrogateOutside : Outside Unit where
  tool _ argv s :=
    if argv.head? = some "yamale" then
      (.answer (.ok ⟨argv, 1, "Validation failed!\na: '1' is not a str.", ""⟩), s)
    else (.answer (.ok ⟨argv, 0, "", ""⟩), s)
  network _ s := (.ok surrogateReply, s)
  marks _ := [plainMark]

/-- Collaborators that are not told the system's part of a prompt. -/
def unprompted (o : Outside Unit) (settings : Settings) (t : Tree) : Collaborators Unit where
  tool argv s := o.tool t argv s
  model p s := ((o.ask (ChatModel.ofSettings settings) ⟨"", p.user⟩ (.fresh, s)).1, s)

/-- If all replies are the same, it does not matter whether the model is told the system's part. -/
theorem runPass_unprompted {o : Outside Unit} {raw : HttpReply}
    (hnetwork : o.network = fun _ s => (.ok raw, s)) (settings : Settings) (t : Tree) (crew : Crew)
    (a : Assignment) (id : OverlayId) (e : Editor) (s : Connection × Unit) :
    (runPass (o.collaborators settings t) crew a id e s).1 =
        (runPass (unprompted o settings t) crew a id e ()).1 ∧
      (runPass (o.collaborators settings t) crew a id e s).2.1 =
        (runPass (unprompted o settings t) crew a id e ()).2.1 := by
  let Unrelated (_ : Connection × Unit) (_ : Unit) : Prop := True
  have hmodel : ∀ (prompt : Suggestion.Prompt) (s : Connection × Unit) (s' : Unit),
      Unrelated s s' → ((o.collaborators settings t).model prompt s).1 =
        ((unprompted o settings t).model prompt s').1 ∧ True := by
    intro prompt s s' _
    refine ⟨?_, trivial⟩
    unfold Outside.collaborators unprompted Outside.ask
    cases ChatModel.ofSettings settings with
    | none => rfl
    | some m =>
      have huser : prompt.user = (⟨"", prompt.user⟩ : Suggestion.Prompt).user := rfl
      have hsame := m.generate_of_same_reply raw huser s.1 .fresh s.2 s'
      dsimp only
      rw [hnetwork]
      exact congrArg Outside.reactionOf hsame
  have hs : Unrelated s () := trivial
  exact runPass_congr (fun _ _ _ _ => ⟨rfl, trivial⟩) hmodel crew a id e hs

/-- The annotation whose text is the lone surrogate is in view after a request that fails. -/
theorem failed_request_shows_surrogate :
    let request := validationRequest [("path", .str "v.yml"), ("schema_path", .str "s.yml")]
    let result := advised.handle surrogateOutside request
    result.1.map (fun answer => (request.respond answer).status) = some 500 ∧
      (result.2.desk.editor.view? "/ws/v.yml").map (fun view =>
        (view.1.map (·.line), view.2.map (·.line))) = some ([1], [1]) ∧
      advised.desk.editor.view? "/ws/v.yml" = none := by
  intro request result
  let v : Validation := ⟨"v.yml", none, some "s.yml", none, ""⟩
  let c : Cleared := ⟨⟨"/", ["ws", "v.yml"]⟩, some ⟨"/", ["ws", "s.yml"]⟩,
    ⟨none, none, some "", none⟩, ["a: 1"]⟩
  have hbody : Validation.ofBody request.body = .ok v := except_toOption_some.1 (by decide +kernel)
  have hcheck : v.check advised.settings advised.desk.tree = .ok c :=
    except_toOption_some.1 (by decide +kernel)
  let opened := advised.desk.editor.present c.document.text c.lines
  let job := advised.desk.jobOn c opened.2 none
  have hreceive : advised.desk.receive advised.settings
      (surrogateOutside.marks advised.outside) v = (.ok job, ⟨advised.desk.tree, opened.1⟩) :=
    Desk.receive_of_layCopy hcheck rfl fun _ => rfl
  -- What the pass comes to is found out without the system's part of the prompt, which is long.
  obtain ⟨⟨ending, e, connection, outside⟩, hrun⟩ : ∃ ran,
      runPass (surrogateOutside.collaborators advised.settings advised.desk.tree)
        advised.settings.crew job.assignment job.overlay opened.1
        (advised.connection, advised.outside) = ran := ⟨_, rfl⟩
  have hsame := runPass_unprompted (o := surrogateOutside) rfl advised.settings advised.desk.tree
    advised.settings.crew job.assignment job.overlay opened.1 (advised.connection, advised.outside)
  rw [hrun] at hsame
  have hshown : let ran := runPass (unprompted surrogateOutside advised.settings
        advised.desk.tree) advised.settings.crew job.assignment job.overlay opened.1 ()
      (Desk.answerTo ⟨advised.desk.tree, ran.2.1⟩ job ran.1).map
          (fun answer => (request.respond answer).status) = some 500 ∧
        (ran.2.1.view? "/ws/v.yml").map (fun view =>
          (view.1.map (·.line), view.2.map (·.line))) = some ([1], [1]) := by
    decide +kernel
  obtain ⟨⟨ending', e', s'⟩, hran⟩ : ∃ ran, runPass (unprompted surrogateOutside advised.settings
      advised.desk.tree) advised.settings.crew job.assignment job.overlay opened.1 () = ran :=
    ⟨_, rfl⟩
  rw [hran] at hsame hshown
  obtain ⟨rfl, rfl⟩ : ending = ending' ∧ e = e' := hsame
  have hresult : result = (Desk.answerTo ⟨advised.desk.tree, e⟩ job ending,
      ⟨advised.settings, ⟨advised.desk.tree, e⟩, connection, outside⟩) :=
    (handle_validate rfl hbody).trans (validate_of_receive hreceive (fun _ => rfl) hrun)
  rw [hresult]
  exact ⟨hshown.1, hshown.2, rfl⟩

end Service

end VarsAdvisor

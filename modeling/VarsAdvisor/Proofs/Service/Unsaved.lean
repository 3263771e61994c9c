import VarsAdvisor.Proofs.Pass.Lockstep
import VarsAdvisor.Proofs.Service.Sightings
import VarsAdvisor.Proofs.Text.Lines

/-!
# Saved and unsaved text

A validation that carries the text of the document's file does the same as one that leaves it to be
read from there: the checks find out the same (`Validation.check_text`), and the passes, one over
the file and one over a copy of it, are in lockstep. Only a copy can have a name that is too long;
then the text is rejected that would be accepted if it were saved
(`unsaved_text_agrees_with_saved`).
-/

namespace VarsAdvisor

open Suggestion Outside Text

variable {σ : Type}

/-! ## Checks -/

/-- A text that has the lines of the document's file makes no difference to the checks. -/
theorem Validation.check_text {v : Validation} {s : Settings} {t : Tree} {document : Path}
    {read text : String} (hpath : s.pathOf t v.path = .ok document)
    (hread : t.readText document = .ok read) (hlines : Text.lines read = Text.lines text) :
    { v with text := some (.ofString text) }.check s t = { v with text := none }.check s t := by
  unfold check
  cases hfile : s.fileOf t (.documentNotFound v.path) v.path with
  | error r => rfl
  | ok document' =>
    obtain rfl : document' = document := Except.ok.inj ((fileOf_ok hfile).1.symm.trans hpath)
    have htext : { v with text := none }.textOf t document' = .ok read := by
      unfold textOf
      dsimp only
      rw [hread]
      rfl
    -- The text is the last thing that is looked at, and of it only the lines are kept.
    have hsent : { v with text := some (.ofString text) }.textOf t document' = .ok text :=
      congrArg Except.ok (WideText.shape_ofString text)
    rw [except_ok_bind, except_ok_bind]
    refine bind_congr fun workflow => bind_congr fun schema => bind_congr fun sample =>
      bind_congr fun schemaText => ?_
    rw [htext, hsent, except_ok_bind, except_ok_bind, hlines]
    rfl

/-! ## Requests to the model -/

section Alike

variable {τ : Type} {network : Network σ} {network' : Network τ} {Alike : σ → τ → Prop}

/-- An exchange over networks that reply alike comes to the same. -/
theorem ChatModel.exchange_alike
    (hnetwork : ∀ r s s', Alike s s' → (network r s).1 = (network' r s').1 ∧
      Alike (network r s).2 (network' r s').2)
    (m : ChatModel) (make : Url → Except ChatFault ChatRequest) (c : Connection) {s : σ} {s' : τ}
    (hs : Alike s s') :
    let made := m.exchange network make c s
    let made' := m.exchange network' make c s'
    made.1 = made'.1 ∧ made.2.1 = made'.2.1 ∧ Alike made.2.2 made'.2.2 := by
  unfold exchange
  cases m.address with
  | error e => exact ⟨rfl, rfl, hs⟩
  | ok address =>
    dsimp only
    cases make address with
    | error e => exact ⟨rfl, rfl, hs⟩
    | ok r =>
      obtain ⟨hreply, halike⟩ := hnetwork r s s' hs
      dsimp only
      generalize network r s = result at hreply halike ⊢
      generalize network' r s' = result' at hreply halike ⊢
      obtain ⟨reply, s⟩ := result
      obtain ⟨reply', s'⟩ := result'
      obtain rfl : reply = reply' := hreply
      cases reply with
      | ok reply => exact ⟨rfl, rfl, halike⟩
      | error e => exact ⟨rfl, rfl, halike⟩

theorem ChatModel.generate_alike
    (hnetwork : ∀ r s s', Alike s s' → (network r s).1 = (network' r s').1 ∧
      Alike (network r s).2 (network' r s').2)
    (m : ChatModel) (p : Prompt) (c : Connection) {s : σ} {s' : τ} (hs : Alike s s') :
    let asked := m.generate network p c s
    let asked' := m.generate network' p c s'
    asked.1 = asked'.1 ∧ asked.2.1 = asked'.2.1 ∧ Alike asked.2.2 asked'.2.2 := by
  have hmade := m.exchange_alike hnetwork (m.promptRequest p) c hs
  unfold generate
  generalize m.exchange network (m.promptRequest p) c s = made at hmade ⊢
  generalize m.exchange network' (m.promptRequest p) c s' = made' at hmade ⊢
  obtain ⟨result, c, s⟩ := made
  obtain ⟨result', c', s'⟩ := made'
  obtain ⟨hresult, hconnection, halike⟩ := hmade
  obtain rfl : result = result' := hresult
  obtain rfl : c = c' := hconnection
  cases result with
  | error e => exact ⟨rfl, rfl, halike⟩
  | ok made => exact ⟨rfl, rfl, halike⟩

theorem Outside.ask_alike {o : Outside σ} {o' : Outside τ}
    (hnetwork : ∀ r s s', Alike s s' → (o.network r s).1 = (o'.network r s').1 ∧
      Alike (o.network r s).2 (o'.network r s').2)
    (model : Option ChatModel) (p : Prompt) (c : Connection) {s : σ} {s' : τ} (hs : Alike s s') :
    let asked := o.ask model p (c, s)
    let asked' := o'.ask model p (c, s')
    asked.1 = asked'.1 ∧ asked.2.1 = asked'.2.1 ∧ Alike asked.2.2 asked'.2.2 := by
  unfold ask
  cases model with
  | none => exact ⟨rfl, rfl, hs⟩
  | some m =>
    obtain ⟨hanswer, hconnection, halike⟩ := m.generate_alike hnetwork p c hs
    exact ⟨congrArg reactionOf hanswer, hconnection, halike⟩

end Alike

/-! ## What is outside -/

namespace Outside

/-- The state is the same, and so are the requests over the network; what tools have been seen to do
may differ. -/
def SameButSeen (s s' : Connection × σ × List Sighting × List ChatRequest) : Prop :=
  s.1 = s'.1 ∧ s.2.1 = s'.2.1 ∧ s.2.2.2 = s'.2.2.2

/-- Tools say about one file of a tree what they say about another one of another tree, but for the
commands that were run. -/
def SaysSame (o : Outside σ) (t : Tree) (file : Path) (t' : Tree) (file' : Path) : Prop :=
  ∀ command s,
    SameReaction (o.tool t (command ++ [file.text]) s).1
        (o.tool t' (command ++ [file'.text]) s).1 ∧
      (o.tool t (command ++ [file.text]) s).2 = (o.tool t' (command ++ [file'.text]) s).2

/-- Passes over a document come to the same, wherever the tools find its text, if they say the same
about it there. -/
theorem SaysSame.runPass {o : Outside σ} {t t' : Tree} {a : Assignment} {source : Option Path}
    (h : o.SaysSame t a.checked t' { a with source := source }.checked) (settings : Settings)
    (id : OverlayId) (e : Editor) (s : Connection × σ × List Sighting × List ChatRequest) :
    let ran := VarsAdvisor.runPass (o.recorded.collaborators settings t) settings.crew a id e s
    let ran' := VarsAdvisor.runPass (o.recorded.collaborators settings t') settings.crew
      { a with source := source } id e s
    ran.1 = ran'.1 ∧ ran.2.1 = ran'.2.1 ∧ SameButSeen ran.2.2 ran'.2.2 := by
  refine runPass_alike settings.crew a source ?_ ?_ id e ⟨rfl, rfl, rfl⟩
  · rintro command ⟨connection, s, seen, requests⟩ ⟨_, _, seen', _⟩ ⟨rfl, rfl, rfl⟩
    obtain ⟨hreaction, hstate⟩ := h command s
    exact ⟨hreaction, rfl, hstate, rfl⟩
  · rintro prompt ⟨connection, s, seen, requests⟩ ⟨_, _, seen', _⟩ ⟨rfl, rfl, rfl⟩
    let Alike (u u' : σ × List Sighting × List ChatRequest) : Prop := u.1 = u'.1 ∧ u.2.2 = u'.2.2
    have hnetwork : ∀ r u u', Alike u u' →
        (o.recorded.network r u).1 = (o.recorded.network r u').1 ∧
          Alike (o.recorded.network r u).2 (o.recorded.network r u').2 := by
      rintro r ⟨u, seen, requests⟩ ⟨_, seen', _⟩ ⟨rfl, rfl⟩
      exact ⟨rfl, rfl, rfl⟩
    have hsame : Alike (s, seen, requests) (s, seen', requests) := ⟨rfl, rfl⟩
    exact ask_alike hnetwork (ChatModel.ofSettings settings) prompt connection hsame

end Outside

/-! ## Validations -/

namespace Service

/-- Two services are the same but for what tools have been seen to do. -/
structure Agrees (s s' : Service (σ × List Sighting × List ChatRequest)) : Prop where
  settings : s.settings = s'.settings
  desk : s.desk = s'.desk
  connection : s.connection = s'.connection
  outside : s.outside.1 = s'.outside.1
  requests : s.outside.2.2 = s'.outside.2.2

/-- A validation breaks down because there is no place for its text: the copy's name would be too
long, or all names that are offered are taken. -/
inductive NoPlace (t : Tree) (document : Path) (marks : List Mark) : Option Answer → Prop
  | longName {copy : Path} (hcopy : t.freshCopy? document marks = some copy)
      (hlong : t.asksLongName copy = true) :
      NoPlace t document marks (some (.rejected (.breakdown .longName)))
  | taken (h : ∀ mark ∈ marks, t.hasPath (copyPath document mark) = true) :
      NoPlace t document marks (some (.rejected (.breakdown .noFreshName)))

theorem NoPlace.status {t : Tree} {document : Path} {marks : List Mark} {answer : Option Answer}
    (h : NoPlace t document marks answer) : answer.map (·.response.status) = some 500 := by
  cases h <;> rfl

theorem Agrees.refl (s : Service (σ × List Sighting × List ChatRequest)) : s.Agrees s :=
  ⟨rfl, rfl, rfl, rfl, rfl⟩

/-- The answer to a validation does not tell where the tools have found the text. -/
theorem answerTo_source (d : Desk) (directory : Path) (a : Assignment) (source : Option Path)
    (id : OverlayId) (ending : Ending PassReport) :
    d.answerTo ⟨directory, { a with source := source }, id⟩ ending =
      d.answerTo ⟨directory, a, id⟩ ending := by
  cases ending <;> rfl

section Recorded

variable {o : Outside σ} {s : Service (σ × List Sighting × List ChatRequest)} {v v' : Validation}

/-- Two validations that are admitted for the same pass, but for the file that the tools are to
check, come to the same if the tools say the same about their files. -/
theorem agrees_of_saysSame {directory : Path} {a : Assignment} {source : Option Path}
    {id : OverlayId} {t t' : Tree} {e : Editor}
    (hreceive : s.desk.receive s.settings (o.marks s.outside.1) v =
      (.ok ⟨directory, a, id⟩, ⟨t, e⟩))
    (hremove : ∀ e, Desk.removeCopy ⟨t, e⟩ a.source = ⟨s.desk.tree, e⟩)
    (hreceive' : s.desk.receive s.settings (o.marks s.outside.1) v' =
      (.ok ⟨directory, { a with source := source }, id⟩, ⟨t', e⟩))
    (hremove' : ∀ e, Desk.removeCopy ⟨t', e⟩ source = ⟨s.desk.tree, e⟩)
    (halike : o.SaysSame t a.checked t' { a with source := source }.checked) :
    (s.validate o.recorded v').1 = (s.validate o.recorded v).1 ∧
      (s.validate o.recorded v').2.Agrees (s.validate o.recorded v).2 := by
  have hruns := halike.runPass s.settings id e (s.connection, s.outside)
  obtain ⟨⟨ending, opened, connection, state, seen, requests⟩, hrun⟩ : ∃ result,
    runPass (o.recorded.collaborators s.settings t) s.settings.crew a id e
      (s.connection, s.outside) = result := ⟨_, rfl⟩
  obtain ⟨⟨ending', opened', connection', state', seen', requests'⟩, hrun'⟩ : ∃ result,
    runPass (o.recorded.collaborators s.settings t') s.settings.crew { a with source := source } id
      e (s.connection, s.outside) = result := ⟨_, rfl⟩
  rw [hrun, hrun'] at hruns
  obtain ⟨hending, hopened, hconnection, hstate, hrequests⟩ := hruns
  obtain rfl : ending = ending' := hending
  obtain rfl : opened = opened' := hopened
  rw [validate_of_receive (o := o.recorded) hreceive hremove hrun,
    validate_of_receive (o := o.recorded) hreceive' hremove' hrun']
  exact ⟨answerTo_source _ _ a _ _ _, rfl, rfl, hconnection.symm, hstate.symm, hrequests.symm⟩

/-- A validation that carries a text comes to the same as one that leaves a text with the same lines
to be read, or there is no place for a copy. -/
theorem validate_text {document : Path} {read text : String}
    (hpath : s.settings.pathOf s.desk.tree v.path = .ok document)
    (hread : s.desk.tree.readText document = .ok read) (hlines : Text.lines read = Text.lines text)
    (hsame : ∀ copy t, s.desk.tree.HoldsCopy document text copy t →
      o.SaysSame s.desk.tree document t copy) :
    let saved := s.validate o.recorded { v with text := none }
    let unsaved := s.validate o.recorded { v with text := some (.ofString text) }
    (unsaved.1 = saved.1 ∧ unsaved.2.Agrees saved.2) ∨
      NoPlace s.desk.tree document (o.marks s.outside.1) unsaved.1 := by
  intro saved unsaved
  have hcheck := Validation.check_text hpath hread hlines
  cases hc : { v with text := none }.check s.settings s.desk.tree with
  | error x =>
    rw [hc] at hcheck
    have hsaved : saved = _ := validate_of_error hc
    have hunsaved : unsaved = _ := validate_of_error hcheck
    rw [hsaved, hunsaved]
    exact .inl ⟨rfl, .refl s⟩
  | ok c =>
    rw [hc] at hcheck
    have hclears := Validation.check_ok hc
    obtain rfl : c.document = document := Except.ok.inj (hclears.path.symm.trans hpath)
    have hplain := plain_pathOf hclears.path
    have hrejected : ∀ r, s.desk.receive s.settings (o.marks s.outside.1)
        { v with text := some (.ofString text) } =
          (.error r, ⟨s.desk.tree, (s.desk.editor.present c.document.text c.lines).1⟩) →
        unsaved.1 = some (.rejected r) := by
      intro r hreceive
      show (s.validate o.recorded { v with text := some (.ofString text) }).1 = _
      unfold validate
      rw [show o.recorded.marks s.outside = o.marks s.outside.1 from rfl, hreceive]
    cases hcopy : s.desk.tree.freshCopy? c.document (o.marks s.outside.1) with
    | none =>
      rw [hrejected _ (Desk.receive_of_layCopy_error hcheck
        fun e => Desk.layCopy_of_taken hcopy e _)]
      exact .inr (.taken (Tree.freshCopy?_eq_none_iff.1 hcopy))
    | some copy =>
      cases hname : s.desk.tree.asksLongName copy with
      | true =>
        rw [hrejected _ (Desk.receive_of_layCopy_error hcheck
          fun e => Desk.layCopy_of_longName hcopy hname e _)]
        exact .inr (.longName hcopy hname)
      | false =>
        have hholds := Tree.holdsCopy_add hplain hclears.isFile hcopy text
        exact .inl (agrees_of_saysSame
          (Desk.receive_of_layCopy hc rfl fun _ => rfl) (fun _ => rfl)
          (Desk.receive_of_layCopy hcheck hholds.base
            fun e => Desk.layCopy_of_string hcopy hname e text)
          (Desk.removeCopy_freshCopy hplain hclears.isFile hcopy text) (hsame _ _ hholds))

/-- **Unsaved text agrees with saved text.** A document's file holds a text in UTF-8, and tools say
the same about a copy of the document that holds the text. Then the lines of the file are those of
the text, and a validation that carries the text gets the answer that it gets without: the same
report with the same markers. The chat model is asked the same, and the documents that are open are
the same afterwards. The exception is a copy with too long a name, or one for which no name is free:
the validation that carries the text breaks down. There are no links among the files. -/
theorem unsaved_text_agrees_with_saved (o : Outside σ)
    (s : Service (σ × List Sighting × List ChatRequest)) {r r' : Request} {v : Validation}
    {document : Path} {bytes : List UInt8} {text : String}
    (hroute : route r.method r.path = .ok .validate)
    (hroute' : route r'.method r'.path = .ok .validate)
    (hbody : Validation.ofBody r.body = .ok { v with text := none })
    (hbody' : Validation.ofBody r'.body = .ok { v with text := some (.ofString text) })
    (hpath : s.settings.pathOf s.desk.tree v.path = .ok document)
    (hpossible : document.isImpossible = false)
    (hfile : s.desk.tree.find? document = some (.file bytes))
    (hutf8 : Utf8.decode bytes = .ok text.toList)
    (hsame : ∀ copy t, s.desk.tree.HoldsCopy document text copy t →
      o.SaysSame s.desk.tree document t copy) :
    Document.ofBytes bytes = .ok (.ofText text) ∧
    (s.desk.tree.readText document).map Text.lines = .ok (Text.lines text) ∧
    let saved := s.handle o.recorded r
    let unsaved := s.handle o.recorded r'
    (unsaved.1 = saved.1 ∧ unsaved.2.Agrees saved.2) ∨
      NoPlace s.desk.tree document (o.marks s.outside.1) unsaved.1 := by
  have hread := Tree.readText_of_decode hpossible hfile hutf8
  have hlines := lines_unifyBreaks text
  refine ⟨Document.ofBytes_of_decode hutf8, ?_, ?_⟩
  · rw [hread]
    exact congrArg Except.ok hlines
  · rw [handle_validate hroute hbody, handle_validate hroute' hbody']
    exact validate_text hpath hread hlines hsame

end Recorded

/-- A small workspace with a file with many kinds of line breaks. -/
def breaks : Service (Unit × List Sighting × List ChatRequest) :=
  { small with desk := ⟨⟨[(["ws"], .directory),
      (["ws", "v.yml"], .file (Utf8.bytesOf "a:\r\n\x0b- b\r\r\n\u2028c\r"))], ["ws"]⟩, .empty⟩ }

theorem saysSame_quietOutside (t t' : Tree) (file file' : Path) :
    quietOutside.SaysSame t file t' file' :=
  fun command _ => ⟨.answer (.ran ⟨command ++ [file.text], 0, "", ""⟩ _), rfl⟩

/-- The text with the line breaks is validated alike. -/
theorem unsaved_text_agrees_with_saved_breaks :
    let text := "a:\r\n\x0b- b\r\r\n\u2028c\r"
    let saved := breaks.handle quietOutside.recorded (validationRequest [("path", .str "v.yml")])
    let unsaved := breaks.handle quietOutside.recorded
      (validationRequest [("path", .str "v.yml"), ("text", .str text)])
    saved.1.map (·.response.status) = some 200 ∧ unsaved.1 = saved.1 ∧ unsaved.2.Agrees saved.2 := by
  intro text saved unsaved
  let v : Validation := ⟨"v.yml", none, none, none, ""⟩
  have hbody : Validation.ofBody (validationRequest [("path", .str "v.yml")]).body =
      .ok { v with text := none } := except_toOption_some.1 (by decide +kernel)
  have hbody' : Validation.ofBody
      (validationRequest [("path", .str "v.yml"), ("text", .str text)]).body =
        .ok { v with text := some text } := except_toOption_some.1 (by decide +kernel)
  have hpath : breaks.settings.pathOf breaks.desk.tree "v.yml" = .ok ⟨"/", ["ws", "v.yml"]⟩ := rfl
  have hutf8 : Utf8.decode (Utf8.bytesOf text) = .ok text.toList :=
    except_toOption_some.1 (by decide +kernel)
  obtain ⟨-, -, hsame | hnone⟩ := unsaved_text_agrees_with_saved quietOutside breaks rfl rfl
    hbody hbody' hpath (by decide +kernel) (by decide +kernel) hutf8
    fun copy t _ => saysSame_quietOutside _ _ _ _
  · exact ⟨by decide +kernel, hsame⟩
  · have hfine : unsaved.1.map (·.response.status) = some 200 := by decide +kernel
    rw [hnone.status] at hfine
    cases hfine

end Service

end VarsAdvisor

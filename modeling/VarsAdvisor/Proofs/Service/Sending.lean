import VarsAdvisor.Proofs.Finding.Reports
import VarsAdvisor.Proofs.Pass.Yields
import VarsAdvisor.Service.Encode

/-!
# What can be sent

JSON with a surrogate in it cannot be sent. A prompt can be sent if there is none in the user's part
(`ChatModel.isSendable_payload`). In the report of a pass there are surrogates in the suggestions
that a chat model has worded and in the message of the syntax finding, which may show an escape of
the document, and nowhere else (`Crew.worded_gather`, `Answer.status_validated`).
-/

namespace VarsAdvisor

open Suggestion Text

/-! ## JSON that can be sent -/

namespace Json

@[simp] theorem isSendable_null : null.isSendable = true := rfl

@[simp] theorem isSendable_bool (b : Bool) : (bool b).isSendable = true := rfl

@[simp] theorem isSendable_int (n : Int) : (int n).isSendable = true := rfl

@[simp] theorem isSendable_str (s : WideText) : (str s).isSendable = s.isString := rfl

@[simp] theorem isSendable_arr (items : List Json) :
    (arr items).isSendable = items.all isSendable := by
  show areSendable items = _
  induction items with
  | nil => rfl
  | cons v rest ih => rw [areSendable, ih, List.all_cons]

@[simp] theorem isSendable_obj (members : List (WideText × Json)) :
    (obj members).isSendable = members.all fun (name, v) => name.isString && v.isSendable := by
  show membersSendable members = _
  induction members with
  | nil => rfl
  | cons member rest ih => rw [membersSendable, ih, List.all_cons]

@[simp] theorem isSendable_ofText? (s : Option String) : (ofText? s).isSendable = true := by
  cases s <;> simp [ofText?]

@[simp] theorem isSendable_ofNat? (n : Option Nat) : (ofNat? n).isSendable = true := by
  cases n <;> rfl

@[simp] theorem isSendable_ofTexts (texts : List String) : (ofTexts texts).isSendable = true := by
  simp [ofTexts, ofString]

end Json

/-! ## Prompts -/

namespace ChatModel

@[simp] theorem isSendable_payload (provider : Provider) (name : String) (p : Prompt) :
    (provider.payload name p).isSendable = p.user.isString := by
  cases provider <;> simp [Provider.payload, Provider.messagesOf, Provider.messageOf]

theorem promptRequest_eq (m : ChatModel) (p : Prompt) (address : Url) :
    m.promptRequest p address =
      ((address.endpoint m.provider.chatPath.toList).mapError ChatFault.url).bind fun url =>
        if p.user.isString then
          .ok ⟨"POST", url, (userAuthorization url).or m.authorization, connectLimit, m.timeout,
            some (m.provider.payload m.name p)⟩
        else .error .unencodable := by
  unfold promptRequest request
  simp only [Option.all_some, isSendable_payload]
  rfl

/-- Over a network that always replies the same, a model answers the same to prompts with the same
part of the user. -/
theorem generate_of_same_reply {σ τ : Type} (raw : HttpReply) (m : ChatModel) {p p' : Prompt}
    (h : p.user = p'.user) (c c' : Connection) (s : σ) (s' : τ) :
    (m.generate (fun _ s => (.ok raw, s)) p c s).1 =
      (m.generate (fun _ s => (.ok raw, s)) p' c' s').1 := by
  unfold generate exchange
  cases m.address with
  | error e => rfl
  | ok address =>
    dsimp only
    rw [promptRequest_eq, promptRequest_eq, h]
    cases (address.endpoint m.provider.chatPath.toList).mapError ChatFault.url with
    | error e => rfl
    | ok url =>
      cases p'.user.isString with
      | false => rfl
      | true =>
        -- Only the bodies of the requests differ, and the reply is taken by their URL.
        simp only [Except.bind, takeFrom, if_true]
        generalize
          (raw.unpacked >>= fun reply => takeReply url reply >>= fun _ => pure reply) = taken
        cases taken with
        | error e => rfl
        | ok reply => rfl

end ChatModel

/-! ## Answers -/

theorem Response.status_ofJson (status : Nat) (v : Json) :
    (ofJson status v).status = if v.isSendable then status else 500 := by
  unfold ofJson
  split <;> rfl

/-! ## Reports -/

@[simp] theorem Finding.isSendable_json (f : Finding) :
    f.json.isSendable = f.message.isString := by
  simp [json, fields]

@[simp] theorem LintReport.isSendable_json (r : LintReport) :
    r.json.isSendable = r.findings.all (·.message.isString) := by
  simp [json, List.all_map, Function.comp_def]

@[simp] theorem Outcome.isSendable_json (outcome : Outcome) : outcome.json.isSendable = true := by
  cases outcome <;> simp [json]

@[simp] theorem SchemaAnnotation.isSendable_json (a : SchemaAnnotation) :
    a.json.isSendable = a.suggestion.isString := by
  simp [json]

@[simp] theorem Annotation.isSendable_json (a : Annotation) :
    a.json.isSendable = a.text.isString := by
  simp [json]

@[simp] theorem Marker.isSendable_json (m : Marker) :
    m.json.isSendable = (m.text.isString && m.hover.isString) := by
  simp [json]

/-- There are no surrogates in the suggestions and in the syntax finding. -/
def Evidence.IsPlain (e : Evidence) : Prop :=
  (∀ a ∈ e.schema, a.suggestion.isString = true) ∧
    ∀ f ∈ e.syntaxFinding, f.message.isString = true

instance (e : Evidence) : Decidable e.IsPlain :=
  inferInstanceAs (Decidable (_ ∧ _))

/-- A chat model has worded the suggestions, or they have no surrogates; those of the linters have
none. -/
structure Evidence.Worded (e : Evidence) : Prop where
  suggestions : e.source = some .llm ∨ ∀ a ∈ e.schema, a.suggestion.isString = true
  lint : ∀ r ∈ e.lint, r.IsPlain

/-- The evidence in a report can be sent exactly if it is plain. -/
theorem PassReport.isSendable_json {r : PassReport} (h : r.evidence.Worded) :
    r.json.isSendable = true ↔
      r.evidence.IsPlain ∧ ∀ a ∈ r.annotations, a.text.isString = true := by
  have hsyntax : ((r.evidence.syntaxFinding.map Finding.json).getD .null).isSendable = true ↔
      ∀ f ∈ r.evidence.syntaxFinding, f.message.isString = true := by
    cases r.evidence.syntaxFinding <;> simp
  have hparts : r.json.isSendable = true ↔
      (∀ a ∈ r.evidence.schema, a.suggestion.isString = true) ∧
        (∀ f ∈ r.evidence.syntaxFinding, f.message.isString = true) ∧
        (∀ report ∈ r.evidence.lint, ∀ f ∈ report.findings, f.message.isString = true) ∧
        ∀ a ∈ r.annotations, a.text.isString = true := by
    simp [json, fields, hsyntax]
  rw [hparts]
  constructor
  · rintro ⟨hschema, hfound, -, hshown⟩
    exact ⟨⟨hschema, hfound⟩, hshown⟩
  · rintro ⟨⟨hschema, hfound⟩, hshown⟩
    exact ⟨hschema, hfound, h.lint, hshown⟩

theorem Finding.isString_annotationText {f : Finding} (h : f.message.isString = true) :
    f.annotationText.isString = true :=
  WideText.isString_append (WideText.isString_ofString _) h

theorem Evidence.isString_of_mem_annotations {e : Evidence} (hworded : e.Worded) (h : e.IsPlain)
    {x : Annotation} (hx : x ∈ e.annotations) : x.text.isString = true := by
  unfold annotations at hx
  rw [List.mem_append, List.mem_append, List.mem_map, List.mem_map, List.mem_flatMap] at hx
  obtain (⟨a, ha, rfl⟩ | ⟨f, hf, rfl⟩) | ⟨r, hr, hx⟩ := hx
  · exact h.1 a ha
  · exact Finding.isString_annotationText (h.2 f (Option.mem_toList.1 hf))
  · obtain ⟨f, hf, rfl⟩ := List.mem_map.1 hx
    exact Finding.isString_annotationText (hworded.lint r hr f hf)

theorem Editor.isString_markerFor (surface : Surface) {a : Annotation}
    (h : a.text.isString = true) :
    (markerFor surface a).text.isString = true ∧ (markerFor surface a).hover.isString = true :=
  ⟨WideText.isString_append (WideText.isString_ofString " ") h, h⟩

/-- A report that shows what it found, with its markers, is answered with status 200 exactly if the
evidence is plain. -/
theorem Answer.status_validated {report : PassReport} {surface : Surface}
    (hworded : report.evidence.Worded)
    (h : ∀ a ∈ report.annotations, a ∈ report.evidence.annotations) :
    (Answer.validated report (report.annotations.map
      (Editor.markerFor surface))).response.status =
      if report.evidence.IsPlain then 200 else 500 := by
  unfold response markersJson
  rw [Response.status_ofJson]
  by_cases hplain : report.evidence.IsPlain
  · have hannotations : ∀ a ∈ report.annotations, a.text.isString = true := fun a ha =>
      Evidence.isString_of_mem_annotations hworded hplain (h a ha)
    have hmarkers := fun a ha => Editor.isString_markerFor surface (hannotations a ha)
    rw [if_pos hplain, if_pos]
    simpa [PassReport.isSendable_json hworded, hplain] using ⟨hannotations, hmarkers⟩
  · rw [if_neg hplain, if_neg]
    simp [PassReport.isSendable_json hworded, hplain]

/-- So are the annotations and markers of such a report when they are shown again. -/
theorem Answer.status_shown (document : String) {annotations : List Annotation} (surface : Surface)
    (h : ∀ a ∈ annotations, a.text.isString = true) :
    (Answer.shown document annotations (annotations.map
      (Editor.markerFor surface))).response.status = 200 := by
  have hmarkers := fun a ha => Editor.isString_markerFor surface (h a ha)
  unfold response markersJson
  rw [Response.status_ofJson, if_pos]
  simpa using ⟨h, hmarkers⟩

/-! ## Words of a chat model -/

/-- A chat model has worded the suggestions, or they have no surrogates. -/
def Suggestion.Advice.Worded (advice : Advice) : Prop :=
  advice.source = .llm ∨ ∀ s ∈ advice.suggestions, s.isString = true

theorem Suggestion.Advice.worded_fallback (errors : List String) (returned : Option Nat) :
    (fallback errors returned).Worded := by
  refine .inr fun s hs => ?_
  obtain ⟨error, -, rfl⟩ := List.mem_map.1 hs
  exact WideText.isString_ofString _

theorem Suggestion.Advice.worded_ofAnswer (policy : Policy) (errors : List String)
    (answer : Option Completion) : (ofAnswer policy errors answer).Worded := by
  unfold ofAnswer
  split
  · exact worded_fallback errors none
  · split
    · exact worded_fallback errors none
    · unfold ofSuggestions
      split
      · exact .inl rfl
      · split
        · exact worded_fallback errors _
        · exact .inl rfl

theorem worded_askAdvice (hasModel : Bool) (policy : Policy) (errors : List String) (d : Document)
    (context : Context) : (askAdvice hasModel policy errors d context).Yields Advice.Worded := by
  unfold askAdvice
  split
  · exact .done (Advice.worded_fallback [] none)
  · split
    · refine .model _ fun reply => ?_
      cases reply with
      | ok completion => exact .done (Advice.worded_ofAnswer policy errors _)
      | error b =>
        cases b with
        | error kind message => exact .done (Advice.worded_ofAnswer policy errors _)
        | stop kind message => exact .fault _
        | cancellation => exact .cancelled
    · exact .done (Advice.worded_ofAnswer policy errors none)

namespace Crew

theorem worded_explain (crew : Crew) (a : Assignment) (d : Document) (outcome : Outcome) :
    (crew.explain a d outcome).Yields fun (schema, source) =>
      source = some .llm ∨ ∀ x ∈ schema, x.suggestion.isString = true := by
  unfold explain
  split
  · exact .done (.inr fun x hx => absurd hx List.not_mem_nil)
  · refine (worded_askAdvice _ _ _ _ _).bind fun advice hadvice => ?_
    refine (Script.Yields.any _).bind fun lines _ => .done ?_
    refine hadvice.imp (congrArg some) fun hall x hx => ?_
    obtain ⟨⟨place, suggestion⟩, hmem, rfl⟩ := List.mem_map.1 hx
    exact hall suggestion (List.of_mem_zip hmem).2

theorem plain_lintWith (crew : Crew) (a : Assignment) {l : Linter} (hl : l.Plain) :
    (crew.lintWith a l).Yields LintReport.IsPlain := by
  refine .tool _ fun reply => .ofExcept fun r hr => ?_
  obtain ⟨found, hfound, rfl⟩ := except_map_ok.1 hr
  exact (hl.report hfound).suppress crew.keywords

theorem plain_lintAll (crew : Crew) (a : Assignment) {linters : List Linter}
    (hlinters : ∀ l ∈ linters, l.Plain) :
    (crew.lintAll a linters).Yields fun reports => ∀ r ∈ reports, r.IsPlain := by
  induction linters with
  | nil => exact .done (List.forall_mem_nil _)
  | cons l rest ih =>
    rw [List.forall_mem_cons] at hlinters
    refine (crew.plain_lintWith a hlinters.1).bind fun report hreport => ?_
    exact (ih hlinters.2).bind fun reports hreports =>
      .done (List.forall_mem_cons.2 ⟨hreport, hreports⟩)

theorem plain_lint (crew : Crew) (a : Assignment) (hlinters : ∀ l ∈ crew.linters, l.Plain) :
    (crew.lint a).Yields fun reports => ∀ r ∈ reports, r.IsPlain := by
  unfold lint
  split
  · exact crew.plain_lintAll a hlinters
  · exact .done (List.forall_mem_nil _)

/-- Whatever a pass is told, surrogates come into its evidence by a model's words only, or by the
syntax finding. -/
theorem worded_gather (crew : Crew) (hlinters : ∀ l ∈ crew.linters, l.Plain) (a : Assignment)
    (d : Document) : (crew.gather a d).Yields Evidence.Worded := by
  unfold gather
  refine (Script.Yields.any _).bind fun found _ => ?_
  refine (Script.Yields.any (crew.validate a)).bind fun outcome _ => ?_
  refine (crew.worded_explain a d outcome).bind ?_
  rintro ⟨schema, source⟩ hworded
  exact (crew.plain_lint a hlinters).bind fun reports hreports => .done ⟨hworded, hreports⟩

end Crew

end VarsAdvisor

import VarsAdvisor.Chat.Model
import VarsAdvisor.Proofs.Except

/-!
# Verdicts on replies

A reply of a chat model should hold an answer (`Provider.Answers`), or else get a verdict: that it is
no JSON, refuses, or lacks the member for the answer (`ChatFault.isVerdict`). Verdicts are given on the
replies that decline in a form of the provider (`Provider.Declines`). On others, such as an array in
place of an object, the reader stumbles, and the fault is none that says what is wrong with the reply.
Main statements: `exists_readReply_iff`, `judged_readReply_iff`.
-/

namespace VarsAdvisor

open VarsAdvisor.Form VarsAdvisor.Suggestion VarsAdvisor.Text

variable {α β : Type} {provider : Provider} {status : Nat}

/-! ## Verdicts -/

/-- The fault is a verdict on a reply with a status: it is no JSON, it refuses, or it lacks the
member for the answer. That the status is no success is a verdict of the first provider. -/
def ChatFault.isVerdict (provider : Provider) (status : Nat) : ChatFault → Bool
  | .status .. => provider == .ollama && !isSuccess status
  | .notJson .. | .refused .. | .noMember .. => true
  | _ => false

/-- The computation ends in a verdict. -/
def Judged (provider : Provider) (status : Nat) (x : Except ChatFault α) : Prop :=
  ∃ e, x = .error e ∧ e.isVerdict provider status = true

theorem not_judged_ok (a : α) : ¬ Judged provider status (.ok a) := by
  rintro ⟨e, he, -⟩
  cases he

theorem judged_error {e : ChatFault} :
    Judged provider status (.error e : Except ChatFault α) ↔ e.isVerdict provider status = true := by
  simp [Judged]

theorem judged_bind {x : Except ChatFault α} {f : α → Except ChatFault β} :
    Judged provider status (x >>= f) ↔
      Judged provider status x ∨ ∃ a, x = .ok a ∧ Judged provider status (f a) := by
  cases x with
  | ok a => simp [except_ok_bind, not_judged_ok]
  | error e =>
    have hbind : (.error e >>= f) = .error e := rfl
    simp [hbind, judged_error]

theorem not_judged_error {e : ChatFault} (h : e.isVerdict provider status = false) :
    ¬ Judged provider status (.error e : Except ChatFault α) := by
  rw [judged_error, h]
  exact Bool.false_ne_true

theorem not_judged_bind {x : Except ChatFault α} {f : α → Except ChatFault β}
    (hx : ¬ Judged provider status x) (hf : ∀ a, ¬ Judged provider status (f a)) :
    ¬ Judged provider status (x >>= f) := by
  rw [judged_bind, not_or]
  exact ⟨hx, fun ⟨a, _, ha⟩ => hf a ha⟩

/-- What fails otherwise is not judged. -/
theorem not_judged_mapError {ε : Type} {x : Except ε α} {f : ε → ChatFault}
    (h : ∀ e, (f e).isVerdict provider status = false) :
    ¬ Judged provider status (x.mapError f) := by
  rintro ⟨e, he, hverdict⟩
  obtain ⟨e', -, rfl⟩ := except_mapError_error.1 he
  rw [h] at hverdict
  cases hverdict

/-! ## Parts of forms -/

theorem isSome_toExcept {x : Checked α} :
    x.toExcept.toOption.isSome = true ↔ ∃ a, x = .good a := by
  cases x <;> simp [Checked.toExcept, Except.toOption]

theorem exists_app {f : Checked (α → β)} {x : Checked α} :
    (∃ b, f.app x = .good b) ↔ (∃ g, f = .good g) ∧ ∃ a, x = .good a := by
  cases f <;> cases x <;> simp [Checked.app]

theorem exists_map {f : α → β} {x : Checked α} :
    (∃ b, x.map f = .good b) ↔ ∃ a, x = .good a := by
  cases x <;> simp [Checked.map]

theorem exists_within {step : Place} {x : Checked α} :
    (∃ a, x.within step = .good a) ↔ ∃ a, x = .good a := by
  cases x <;> simp [Checked.within]

theorem exists_readWide {v : Json} : (∃ s, readWide v = .good s) ↔ ∃ s, v = .str s := by
  cases v <;> simp [readWide, complain]

/-- A member has what its default has if it has it when it is there. -/
theorem memberOr_iff {P : Json → Prop} {members : List (WideText × Json)} {name : String}
    {default : Json} (h : P default) :
    P (memberOr members name default) ↔ ∀ v, Json.member? members name = some v → P v := by
  unfold memberOr
  cases Json.member? members name with
  | none => simp [h]
  | some v => simp

theorem memberOr_eq_iff {members : List (WideText × Json)} {name : String} {default v : Json}
    (h : v ≠ default) : memberOr members name default = v ↔ Json.member? members name = some v := by
  unfold memberOr
  cases Json.member? members name with
  | none => simp [Ne.symm h]
  | some w => simp

theorem not_truthy_memberOr {members : List (WideText × Json)} {name : String} :
    ¬ (memberOr members name .null).isTruthy = true ↔
      ∀ v, Json.member? members name = some v → v.isTruthy = false := by
  rw [Bool.not_eq_true]
  exact memberOr_iff (P := fun v => v.isTruthy = false) rfl

/-! ## Answers and refusals -/

/-- The parts of a completion have their kinds: a content that is a text if it is more than nothing,
the name of a model, and two whole numbers. -/
structure Complete (content members counts : List (WideText × Json))
    (promptCount completionCount : String) : Prop where
  content : ∀ v, Json.member? content "content" = some v → v.isTruthy = true → ∃ s, v = .str s
  model : ∀ v, Json.member? members "model" = some v → ∃ s, v = .str s
  promptTokens : ∀ v, Json.member? counts promptCount = some v → ∃ n, readInt v = .good n
  completionTokens : ∀ v, Json.member? counts completionCount = some v → ∃ n, readInt v = .good n

theorem exists_answerOf {content model promptTokens completionTokens : Json}
    {members : List (WideText × Json)} :
    (∃ answer, answerOf content model promptTokens completionTokens members = .ok answer) ↔
      (∃ s, content = .str s) ∧ (∃ s, model = .str s) ∧
        (∃ n, readInt promptTokens = .good n) ∧ ∃ n, readInt completionTokens = .good n := by
  rw [← exists_readWide, ← exists_readWide]
  unfold answerOf
  dsimp only
  split
  · next completion hchecked =>
    have hgood := isSome_toExcept.1 (by rw [hchecked]; rfl)
    simp only [exists_app, exists_map, exists_within, and_assoc] at hgood
    exact iff_of_true ⟨_, rfl⟩ hgood
  · next complaints hchecked =>
    have hbad := mt isSome_toExcept.2 (by rw [hchecked]; exact Bool.false_ne_true)
    simp only [exists_app, exists_map, exists_within, and_assoc] at hbad
    exact iff_of_false (by simp) hbad

theorem not_judged_answerOf {content model promptTokens completionTokens : Json}
    {members : List (WideText × Json)} :
    ¬ Judged provider status (answerOf content model promptTokens completionTokens members) := by
  unfold answerOf
  dsimp only
  split
  · exact not_judged_ok _
  · exact not_judged_error rfl

theorem exists_orEmpty {v : Json} :
    (∃ s, orEmpty v = .str s) ↔ (v.isTruthy = true → ∃ s, v = .str s) := by
  unfold orEmpty
  split <;> simp_all

/-- The answer with these parts is there exactly if they are complete. -/
theorem exists_answerOf_members {parts members counts : List (WideText × Json)} {model : String}
    {promptCount completionCount : String} :
    (∃ answer, answerOf (orEmpty (memberOr parts "content" .null))
      (memberOr members "model" (.str model)) (memberOr counts promptCount (.int 0))
      (memberOr counts completionCount (.int 0)) members = .ok answer) ↔
    Complete parts members counts promptCount completionCount := by
  rw [exists_answerOf, exists_orEmpty,
    memberOr_iff (P := fun v => v.isTruthy = true → ∃ s, v = .str s) (by simp [Json.isTruthy]),
    memberOr_iff (P := fun v => ∃ s, v = .str s) ⟨model, rfl⟩,
    memberOr_iff (P := fun v => ∃ n, readInt v = .good n) ⟨0, rfl⟩,
    memberOr_iff (P := fun v => ∃ n, readInt v = .good n) ⟨0, rfl⟩]
  constructor
  · rintro ⟨hcontent, hmodel, hprompt, hcompletion⟩
    exact ⟨hcontent, hmodel, hprompt, hcompletion⟩
  · rintro ⟨hcontent, hmodel, hprompt, hcompletion⟩
    exact ⟨hcontent, hmodel, hprompt, hcompletion⟩

theorem membersOrFault_eq_ok {v : Json} {members : List (WideText × Json)} :
    membersOrFault v = .ok members ↔ v = .obj members := by
  cases v <;> simp [membersOrFault]

theorem not_judged_membersOrFault {v : Json} : ¬ Judged provider status (membersOrFault v) := by
  unfold membersOrFault
  split
  · exact not_judged_ok _
  · exact not_judged_error rfl

/-! ## The first provider -/

theorem messageHolder_object (members : List (WideText × Json)) :
    messageHolder (.obj members) = match Json.member? members "message" with
      | some message => .ok (members, message)
      | none => .error (.noMember .ollama (members.map (·.1))) :=
  rfl

theorem messageHolder_of_not_object {data : Json} (h : ∀ members, data ≠ .obj members) :
    ∃ e, messageHolder data = .error e ∧ ∀ provider status, e.isVerdict provider status = false := by
  cases data with
  | obj members => exact absurd rfl (h members)
  | str s =>
    refine ⟨_, rfl, fun provider status => ?_⟩
    split <;> rfl
  | arr items =>
    refine ⟨_, rfl, fun provider status => ?_⟩
    split <;> rfl
  | _ => exact ⟨_, rfl, fun provider status => rfl⟩

theorem messageHolder_eq_ok {data message : Json} {members : List (WideText × Json)} :
    messageHolder data = .ok (members, message) ↔
      data = .obj members ∧ Json.member? members "message" = some message := by
  by_cases hdata : ∃ ms, data = .obj ms
  · obtain ⟨ms, rfl⟩ := hdata
    rw [messageHolder_object]
    cases hmessage : Json.member? ms "message" <;> grind
  · rw [not_exists] at hdata
    obtain ⟨e, he, -⟩ := messageHolder_of_not_object hdata
    rw [he]
    simp [hdata]

theorem judged_messageHolder {data : Json} : Judged provider status (messageHolder data) ↔
    ∃ members, data = .obj members ∧ Json.member? members "message" = none := by
  by_cases hdata : ∃ ms, data = .obj ms
  · obtain ⟨ms, rfl⟩ := hdata
    rw [messageHolder_object]
    cases hmessage : Json.member? ms "message" <;>
      simp [not_judged_ok, judged_error, hmessage, ChatFault.isVerdict, -List.lookup_eq_none_iff]
  · rw [not_exists] at hdata
    obtain ⟨e, he, hverdict⟩ := messageHolder_of_not_object hdata
    rw [he, judged_error, hverdict]
    simp [hdata]

variable {model : String} {data : Json}

theorem exists_readOllama : (∃ answer, readOllama model data = .ok answer) ↔
    ∃ members parts, data = .obj members ∧ Json.member? members "message" = some (.obj parts) ∧
      Complete parts members members "prompt_eval_count" "eval_count" := by
  constructor
  · rintro ⟨answer, h⟩
    obtain ⟨⟨members, message⟩, hholder, h⟩ := except_bind_ok.1 h
    obtain ⟨parts, hparts, h⟩ := except_bind_ok.1 h
    obtain ⟨rfl, hmessage⟩ := messageHolder_eq_ok.1 hholder
    rw [membersOrFault_eq_ok] at hparts
    subst hparts
    exact ⟨members, parts, rfl, hmessage, exists_answerOf_members.1 ⟨answer, h⟩⟩
  · rintro ⟨members, parts, rfl, hmessage, hcomplete⟩
    obtain ⟨answer, h⟩ := exists_answerOf_members.2 hcomplete
    refine ⟨answer, ?_⟩
    rw [readOllama, messageHolder_eq_ok.2 ⟨rfl, hmessage⟩]
    exact h

theorem judged_readOllama : Judged provider status (readOllama model data) ↔
    ∃ members, data = .obj members ∧ Json.member? members "message" = none := by
  rw [readOllama, judged_bind, judged_messageHolder]
  refine or_iff_left ?_
  rintro ⟨⟨members, message⟩, -, h⟩
  exact not_judged_bind not_judged_membersOrFault (fun _ => not_judged_answerOf) h

/-! ## The second provider -/

theorem firstChoice_eq_ok {choices : Json} {choice : List (WideText × Json)} :
    (firstChoice choices).bind membersOrFault = .ok choice ↔
      ∃ more, choices = .arr (.obj choice :: more) := by
  refine except_bind_ok.trans ?_
  simp only [membersOrFault_eq_ok]
  constructor
  · rintro ⟨_, h, rfl⟩
    unfold firstChoice at h
    split at h
    · next first more =>
      cases h
      exact ⟨more, rfl⟩
    all_goals cases h
  · rintro ⟨more, rfl⟩
    exact ⟨_, rfl, rfl⟩

theorem not_judged_firstChoice {choices : Json} :
    ¬ Judged provider status ((firstChoice choices).bind membersOrFault) := by
  refine not_judged_bind ?_ fun choice => not_judged_membersOrFault
  cases choices with
  | arr items =>
    cases items with
    | nil => exact not_judged_error rfl
    | cons first more => exact not_judged_ok _
  | str s => exact not_judged_ok _
  | _ => exact not_judged_error rfl

/-- The counts of a reply of the second provider: those that it gives, or none in place of what
counts as nothing. -/
def UsageIs (members counts : List (WideText × Json)) : Prop :=
  Json.member? members "usage" = some (.obj counts) ∨
    counts = [] ∧ ∀ v, Json.member? members "usage" = some v → v.isTruthy = false

theorem usage_eq_iff {members counts : List (WideText × Json)} :
    (if (memberOr members "usage" .null).isTruthy then memberOr members "usage" .null
      else .obj []) = .obj counts ↔ UsageIs members counts := by
  have hobj : memberOr members "usage" .null = .obj counts ↔
      Json.member? members "usage" = some (.obj counts) := memberOr_eq_iff (by simp)
  unfold UsageIs
  rw [← hobj, ← not_truthy_memberOr]
  split
  · next htruthy => simp [htruthy]
  · next hfalsy =>
    rw [Bool.not_eq_true] at hfalsy
    constructor
    · intro h
      cases h
      exact .inr ⟨rfl, by simp [hfalsy]⟩
    · rintro (h | ⟨rfl, -⟩)
      -- An object that counts as nothing has no members.
      · rw [h] at hfalsy
        cases counts with
        | nil => rfl
        | cons => cases hfalsy
      · rfl

theorem exists_readCompatible : (∃ answer, readCompatible model data = .ok answer) ↔
    ∃ members choice more parts counts, data = .obj members ∧
      Json.member? members "choices" = some (.arr (.obj choice :: more)) ∧
      memberOr choice "message" (.obj []) = .obj parts ∧ UsageIs members counts ∧
      Complete parts members counts "prompt_tokens" "completion_tokens" := by
  constructor
  · rintro ⟨answer, h⟩
    obtain ⟨members, hdata, h⟩ := except_bind_ok.1 h
    dsimp only at h
    split at h
    · obtain ⟨choice, hchoice, h⟩ := except_bind_ok.1 h
      obtain ⟨parts, hparts, h⟩ := except_bind_ok.1 h
      obtain ⟨counts, hcounts, h⟩ := except_bind_ok.1 h
      obtain ⟨more, hchoices⟩ := firstChoice_eq_ok.1 hchoice
      rw [membersOrFault_eq_ok] at hdata hparts hcounts
      exact ⟨members, choice, more, parts, counts, hdata, (memberOr_eq_iff (by simp)).1 hchoices,
        hparts, usage_eq_iff.1 hcounts, exists_answerOf_members.1 ⟨answer, h⟩⟩
    · cases h
  · rintro ⟨members, choice, more, parts, counts, rfl, hchoices, hmessage, husage, hcomplete⟩
    obtain ⟨answer, h⟩ := exists_answerOf_members.2 hcomplete
    have hlist : memberOr members "choices" .null = .arr (.obj choice :: more) :=
      (memberOr_eq_iff (by simp)).2 hchoices
    have htruthy : (Json.arr (.obj choice :: more)).isTruthy = true := rfl
    refine ⟨answer, ?_⟩
    rw [readCompatible, membersOrFault_eq_ok.2 rfl, except_ok_bind, hlist]
    dsimp only
    rw [if_pos htruthy, firstChoice_eq_ok.2 ⟨more, rfl⟩, except_ok_bind, hmessage,
      membersOrFault_eq_ok.2 rfl, except_ok_bind, usage_eq_iff.2 husage,
      membersOrFault_eq_ok.2 rfl, except_ok_bind]
    exact h

theorem judged_readCompatible : Judged provider status (readCompatible model data) ↔
    ∃ members, data = .obj members ∧
      ∀ v, Json.member? members "choices" = some v → v.isTruthy = false := by
  rw [readCompatible, judged_bind, or_iff_right not_judged_membersOrFault]
  simp only [membersOrFault_eq_ok]
  refine exists_congr fun members => and_congr_right fun _ => ?_
  rw [← not_truthy_memberOr]
  split
  · next htruthy =>
    refine iff_of_false ?_ (not_not_intro htruthy)
    refine not_judged_bind not_judged_firstChoice fun choice => ?_
    refine not_judged_bind not_judged_membersOrFault fun parts => ?_
    exact not_judged_bind not_judged_membersOrFault fun counts => not_judged_answerOf
  · next hfalsy => exact iff_of_true ⟨_, rfl, rfl⟩ hfalsy

/-! ## Bodies and statuses -/

theorem not_judged_json {r : HttpReply} : ¬ Judged provider status r.json := by
  unfold HttpReply.json
  split
  · exact not_judged_ok _
  · exact not_judged_error rfl
  · exact not_judged_ok _

theorem not_judged_text {r : HttpReply} : ¬ Judged provider status r.text := by
  unfold HttpReply.text
  split
  · exact not_judged_ok _
  · refine not_judged_bind (not_judged_mapError fun _ => rfl) fun charset => ?_
    exact not_judged_bind (not_judged_mapError fun _ => rfl) fun cs => not_judged_ok _

/-- The provider gives answers with this status. -/
def Provider.TakesStatus : Provider → Nat → Prop
  | .ollama, status => isSuccess status = true
  | .compatible, status => status = 200

/-- The details of a refusal, if there are any, are the members of an object. -/
def RefusesWell (members : List (WideText × Json)) : Prop :=
  ∀ v, Json.member? members "error" = some v → ∃ details, v = .obj details

theorem exists_saidIn {r : HttpReply} : (∃ said, saidIn r data = .ok said) ↔
    ∃ members text, data = .obj members ∧ RefusesWell members ∧ r.text = .ok text := by
  unfold RefusesWell
  constructor
  · rintro ⟨said, h⟩
    obtain ⟨members, hdata, h⟩ := except_bind_ok.1 h
    obtain ⟨details, hdetails, h⟩ := except_bind_ok.1 h
    obtain ⟨text, htext, -⟩ := except_bind_ok.1 h
    rw [membersOrFault_eq_ok] at hdata hdetails
    refine ⟨members, text, hdata, ?_, htext⟩
    exact (memberOr_iff (P := fun v => ∃ details, v = .obj details) ⟨[], rfl⟩).1 ⟨details, hdetails⟩
  · rintro ⟨members, text, rfl, herror, htext⟩
    rw [← memberOr_iff (P := fun v => ∃ details, v = .obj details) ⟨[], rfl⟩] at herror
    obtain ⟨details, hdetails⟩ := herror
    refine ⟨(memberOr details "message" (.str text)).display, ?_⟩
    rw [saidIn, membersOrFault_eq_ok.2 rfl, except_ok_bind, hdetails, membersOrFault_eq_ok.2 rfl,
      except_ok_bind, htext]
    rfl

theorem not_judged_saidIn {r : HttpReply} : ¬ Judged provider status (saidIn r data) := by
  refine not_judged_bind not_judged_membersOrFault fun members => ?_
  refine not_judged_bind not_judged_membersOrFault fun details => ?_
  exact not_judged_bind not_judged_text fun text => not_judged_ok _

variable {url base : String} {r : HttpReply}

theorem checkStatus_compatible (h : r.status ≠ 200) :
    Provider.compatible.checkStatus url r = r.json >>= fun
      | some data => saidIn r data >>= fun said => .error (.refused r.status said)
      | none => r.text >>= fun text => .error (.refused r.status text) :=
  if_neg h

theorem checkStatus_eq_ok :
    provider.checkStatus url r = .ok () ↔ provider.TakesStatus r.status := by
  unfold Provider.TakesStatus
  cases provider with
  | ollama =>
    unfold Provider.checkStatus
    split <;> simp_all
  | compatible =>
    by_cases hstatus : r.status = 200
    · exact iff_of_true (if_pos hstatus) hstatus
    · refine iff_of_false (fun h => ?_) hstatus
      rw [checkStatus_compatible hstatus] at h
      obtain ⟨json, -, h⟩ := except_bind_ok.1 h
      cases json with
      | none =>
        obtain ⟨text, -, h⟩ := except_bind_ok.1 h
        cases h
      | some data =>
        obtain ⟨said, -, h⟩ := except_bind_ok.1 h
        cases h

/-- A refusal that can be read: it says in its body, as a text or in the members of an object, why
there is no answer. -/
inductive Refuses (r : HttpReply) : Prop where
  | text {text : String} (hjson : r.json = .ok none) (htext : r.text = .ok text)
  | members {members : List (WideText × Json)} {text : String}
      (hjson : r.json = .ok (some (.obj members))) (herror : RefusesWell members)
      (htext : r.text = .ok text)

theorem judged_refusal (h : r.status ≠ 200) :
    Judged provider status (Provider.compatible.checkStatus url r) ↔ Refuses r := by
  rw [checkStatus_compatible h, judged_bind, or_iff_right not_judged_json]
  constructor
  · rintro ⟨json, hjson, hjudged⟩
    cases json with
    | none =>
      rcases judged_bind.1 hjudged with hjudged | ⟨text, htext, -⟩
      · exact absurd hjudged not_judged_text
      · exact .text hjson htext
    | some data =>
      rcases judged_bind.1 hjudged with hjudged | ⟨said, hsaid, -⟩
      · exact absurd hjudged not_judged_saidIn
      · obtain ⟨members, text, rfl, herror, htext⟩ := exists_saidIn.1 ⟨said, hsaid⟩
        exact .members hjson herror htext
  · rintro (⟨hjson, htext⟩ | ⟨hjson, herror, htext⟩)
    · exact ⟨none, hjson, judged_bind.2 (.inr ⟨_, htext, _, rfl, rfl⟩)⟩
    · obtain ⟨said, hsaid⟩ := exists_saidIn.2 ⟨_, _, rfl, herror, htext⟩
      exact ⟨_, hjson, judged_bind.2 (.inr ⟨said, hsaid, _, rfl, rfl⟩)⟩

theorem judged_checkStatus : Judged provider r.status (provider.checkStatus url r) ↔
    ¬ provider.TakesStatus r.status ∧ (provider = .compatible → Refuses r) := by
  by_cases hstatus : provider.TakesStatus r.status
  · rw [checkStatus_eq_ok.2 hstatus]
    exact iff_of_false (not_judged_ok _) fun h => h.1 hstatus
  · cases provider with
    | ollama =>
      refine iff_of_true ?_ ⟨hstatus, by simp⟩
      have hfail : isSuccess r.status = false := Bool.not_eq_true _ ▸ hstatus
      unfold Provider.checkStatus
      simp [judged_error, ChatFault.isVerdict, hfail]
    | compatible => simp [judged_refusal hstatus, hstatus]

/-! ## Replies -/

/-- The reply holds an answer in the form of the provider. -/
inductive Provider.Answers : Provider → HttpReply → Prop
  | message {r : HttpReply} {members parts : List (WideText × Json)}
      (hstatus : Provider.ollama.TakesStatus r.status) (hjson : r.json = .ok (some (.obj members)))
      (hmessage : Json.member? members "message" = some (.obj parts))
      (hcomplete : Complete parts members members "prompt_eval_count" "eval_count") :
      Answers .ollama r
  | choice {r : HttpReply} {members choice parts counts : List (WideText × Json)} {more : List Json}
      (hstatus : Provider.compatible.TakesStatus r.status)
      (hjson : r.json = .ok (some (.obj members)))
      (hchoices : Json.member? members "choices" = some (.arr (.obj choice :: more)))
      (hmessage : memberOr choice "message" (.obj []) = .obj parts)
      (husage : UsageIs members counts)
      (hcomplete : Complete parts members counts "prompt_tokens" "completion_tokens") :
      Answers .compatible r

/-- The reply holds no answer, in one of the ways that the provider is known for. -/
inductive Provider.Declines : Provider → HttpReply → Prop
  | failed {r : HttpReply} (hstatus : ¬ Provider.ollama.TakesStatus r.status) : Declines .ollama r
  | refused {r : HttpReply} (hstatus : ¬ Provider.compatible.TakesStatus r.status)
      (h : Refuses r) : Declines .compatible r
  | notJson {provider : Provider} {r : HttpReply} {text : String}
      (hstatus : provider.TakesStatus r.status) (hjson : r.json = .ok none)
      (htext : r.text = .ok text) : Declines provider r
  | noMessage {r : HttpReply} {members : List (WideText × Json)}
      (hstatus : Provider.ollama.TakesStatus r.status) (hjson : r.json = .ok (some (.obj members)))
      (h : Json.member? members "message" = none) : Declines .ollama r
  | noChoices {r : HttpReply} {members : List (WideText × Json)}
      (hstatus : Provider.compatible.TakesStatus r.status)
      (hjson : r.json = .ok (some (.obj members)))
      (h : ∀ v, Json.member? members "choices" = some v → v.isTruthy = false) : Declines .compatible r

theorem readReply_eq : provider.readReply model base url r =
    provider.checkStatus url r >>= fun _ => r.json >>= fun
      | some data => provider.readAnswer model data
      | none => r.text >>= fun text => .error (.notJson provider r.status base (preview text)) :=
  rfl

theorem exists_readReply_iff :
    (∃ answer, provider.readReply model base url r = .ok answer) ↔ provider.Answers r := by
  rw [readReply_eq]
  constructor
  · rintro ⟨answer, h⟩
    obtain ⟨_, hstatus, h⟩ := except_bind_ok.1 h
    obtain ⟨json, hjson, h⟩ := except_bind_ok.1 h
    rw [checkStatus_eq_ok] at hstatus
    cases json with
    | none =>
      obtain ⟨text, -, h⟩ := except_bind_ok.1 h
      cases h
    | some data =>
      cases provider with
      | ollama =>
        obtain ⟨members, parts, rfl, hmessage, hcomplete⟩ := exists_readOllama.1 ⟨answer, h⟩
        exact .message hstatus hjson hmessage hcomplete
      | compatible =>
        obtain ⟨members, choice, more, parts, counts, rfl, hchoices, hmessage, husage, hcomplete⟩ :=
          exists_readCompatible.1 ⟨answer, h⟩
        exact .choice hstatus hjson hchoices hmessage husage hcomplete
  · rintro (⟨hstatus, hjson, hmessage, hcomplete⟩ |
      ⟨hstatus, hjson, hchoices, hmessage, husage, hcomplete⟩)
    · obtain ⟨answer, h⟩ := exists_readOllama.2 ⟨_, _, rfl, hmessage, hcomplete⟩
      refine ⟨answer, ?_⟩
      rw [checkStatus_eq_ok.2 hstatus, except_ok_bind, hjson]
      exact h
    · obtain ⟨answer, h⟩ :=
        exists_readCompatible.2 ⟨_, _, _, _, _, rfl, hchoices, hmessage, husage, hcomplete⟩
      refine ⟨answer, ?_⟩
      rw [checkStatus_eq_ok.2 hstatus, except_ok_bind, hjson]
      exact h

theorem judged_readReply_iff :
    Judged provider r.status (provider.readReply model base url r) ↔ provider.Declines r := by
  rw [readReply_eq]
  constructor
  · intro h
    rcases judged_bind.1 h with h | ⟨_, hstatus, h⟩
    · obtain ⟨hstatus, hrefuses⟩ := judged_checkStatus.1 h
      cases provider with
      | ollama => exact .failed hstatus
      | compatible => exact .refused hstatus (hrefuses rfl)
    rcases judged_bind.1 h with h | ⟨json, hjson, h⟩
    · exact absurd h not_judged_json
    rw [checkStatus_eq_ok] at hstatus
    cases json with
    | none =>
      rcases judged_bind.1 h with h | ⟨text, htext, -⟩
      · exact absurd h not_judged_text
      · exact .notJson hstatus hjson htext
    | some data =>
      cases provider with
      | ollama =>
        obtain ⟨members, rfl, hmessage⟩ := judged_readOllama.1 h
        exact .noMessage hstatus hjson hmessage
      | compatible =>
        obtain ⟨members, rfl, hchoices⟩ := judged_readCompatible.1 h
        exact .noChoices hstatus hjson hchoices
  · intro h
    cases h with
    | failed hstatus => exact judged_bind.2 (.inl (judged_checkStatus.2 ⟨hstatus, by simp⟩))
    | refused hstatus h => exact judged_bind.2 (.inl (judged_checkStatus.2 ⟨hstatus, fun _ => h⟩))
    | notJson hstatus hjson htext =>
      rw [checkStatus_eq_ok.2 hstatus, except_ok_bind, hjson, except_ok_bind, htext]
      exact judged_error.2 rfl
    | noMessage hstatus hjson h =>
      rw [checkStatus_eq_ok.2 hstatus, except_ok_bind, hjson]
      exact judged_readOllama.2 ⟨_, rfl, h⟩
    | noChoices hstatus hjson h =>
      rw [checkStatus_eq_ok.2 hstatus, except_ok_bind, hjson]
      exact judged_readCompatible.2 ⟨_, rfl, h⟩

/-! ## Asking a model -/

namespace ChatModel

theorem not_judged_unpacked : ¬ Judged provider status r.unpacked :=
  not_judged_bind (not_judged_mapError fun _ => rfl) fun _ => not_judged_ok _

theorem not_judged_checkRedirect {requested : Url} :
    ¬ Judged provider status (checkRedirect requested r) := by
  unfold checkRedirect
  split
  · exact not_judged_ok _
  · split
    · refine not_judged_bind (not_judged_mapError fun _ => rfl) fun url => ?_
      split
      · exact not_judged_bind (not_judged_mapError fun _ => rfl) fun _ => not_judged_ok _
      · exact not_judged_ok _
    · exact not_judged_ok _

/-- A reply that cannot be taken at all is not judged. -/
theorem not_judged_takeFrom {request : ChatRequest} :
    ¬ Judged provider status (takeFrom request r) := by
  refine not_judged_bind not_judged_unpacked fun reply => ?_
  refine not_judged_bind ?_ fun _ => not_judged_ok _
  unfold takeReply
  split
  · exact not_judged_checkRedirect
  · exact not_judged_error rfl

theorem status_of_takeFrom {request : ChatRequest} {reply : HttpReply}
    (h : takeFrom request r = .ok reply) : reply.status = r.status := by
  obtain ⟨unpacked, hunpacked, h⟩ := except_bind_ok.1 h
  obtain ⟨_, -, h⟩ := except_bind_ok.1 h
  obtain ⟨body, -, hbody⟩ := except_bind_ok.1 hunpacked
  cases h
  cases hbody
  rfl

variable {σ : Type} {network : Network σ} {m : ChatModel} {p : Prompt} {s : σ}
  {request : ChatRequest} {raw : HttpReply}

/-- The request with a prompt can be made, and there comes a reply to it. -/
structure Gets (network : Network σ) (m : ChatModel) (p : Prompt) (s : σ) (request : ChatRequest)
    (raw : HttpReply) : Prop where
  made : ∃ address, m.address = .ok address ∧ m.promptRequest p address = .ok request
  reply : (network request s).1 = .ok raw

theorem generate_of_gets (h : Gets network m p s request raw) (c : Connection) :
    (m.generate network p c s).1 =
      takeFrom request raw >>= m.provider.readReply m.name m.base request.url.text := by
  obtain ⟨⟨address, haddress, hrequest⟩, hreply⟩ := h
  obtain ⟨s', hnetwork⟩ : ∃ s', network request s = (.ok raw, s') := ⟨_, Prod.ext hreply rfl⟩
  unfold generate exchange
  simp only [haddress, hrequest, hnetwork]
  cases takeFrom request raw <;> rfl

/-- **A reply is answered or judged exactly if it holds an answer or declines** in the form of the
provider, once it can be taken. Whatever else comes back breaks off with another fault. -/
theorem reply_is_answer_or_verdict_iff (h : Gets network m p s request raw) (c : Connection) :
    ((∃ answer, (m.generate network p c s).1 = .ok answer) ↔
      ∃ reply, takeFrom request raw = .ok reply ∧ m.provider.Answers reply) ∧
    (Judged m.provider raw.status (m.generate network p c s).1 ↔
      ∃ reply, takeFrom request raw = .ok reply ∧ m.provider.Declines reply) := by
  rw [generate_of_gets h]
  constructor
  · constructor
    · rintro ⟨answer, hanswer⟩
      obtain ⟨reply, hreply, hanswer⟩ := except_bind_ok.1 hanswer
      exact ⟨reply, hreply, exists_readReply_iff.1 ⟨answer, hanswer⟩⟩
    · rintro ⟨reply, hreply, hanswers⟩
      rw [hreply]
      exact exists_readReply_iff.2 hanswers
  · rw [judged_bind, or_iff_right not_judged_takeFrom]
    refine exists_congr fun reply => and_congr_right fun hreply => ?_
    rw [← status_of_takeFrom hreply, judged_readReply_iff]

theorem exists_ok_of_isSome {ε : Type} {x : Except ε α} (h : x.toOption.isSome = true) :
    ∃ a, x = .ok a := by
  obtain ⟨a, ha⟩ := Option.isSome_iff_exists.1 h
  exact ⟨a, except_toOption_some.1 ha⟩

theorem reply_is_answer_or_verdict_iff_of_choice :
    let m : ChatModel := ⟨.compatible, "http://h", "", "m", .ofInt 120⟩
    let choice : Json := .obj [("message", .obj [("content", .str "x")])]
    let raw : HttpReply := ⟨200, [], Utf8.bytesOf (Json.obj [("choices", .arr [choice])]).text⟩
    let network : Network Unit := fun _ s => (.ok raw, s)
    ∃ request, Gets network m ⟨"s", "u"⟩ () request raw ∧
      ∃ reply, takeFrom request raw = .ok reply ∧ m.provider.Answers reply := by
  intro m choice raw network
  obtain ⟨request, hrequest⟩ : ∃ request, m.address >>= m.promptRequest ⟨"s", "u"⟩ = .ok request :=
    exists_ok_of_isSome (by decide +kernel)
  have hgets : Gets network m ⟨"s", "u"⟩ () request raw := ⟨except_bind_ok.1 hrequest, rfl⟩
  refine ⟨request, hgets, (reply_is_answer_or_verdict_iff hgets .fresh).1.1 ?_⟩
  exact exists_ok_of_isSome (by decide +kernel)

/-- An array is neither an answer nor is it judged. -/
theorem generate_of_array :
    let m : ChatModel := ⟨.compatible, "http://h", "", "m", .ofInt 120⟩
    let network : Network Unit := fun _ s => (.ok ⟨200, [], Utf8.bytesOf "[]"⟩, s)
    ∃ e, (m.generate network ⟨"s", "u"⟩ .fresh ()).1 = .error e ∧
      e.isVerdict .compatible 200 = false := by
  intro m network
  have hfault : (match (m.generate network ⟨"s", "u"⟩ .fresh ()).1 with
      | .error e => e.isVerdict .compatible 200
      | .ok _ => true) = false := by
    decide +kernel
  split at hfault
  · next e he => exact ⟨e, he, hfault⟩
  · cases hfault

end ChatModel

end VarsAdvisor

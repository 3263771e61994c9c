import VarsAdvisor.Proofs.Pass.Testimony
import VarsAdvisor.Proofs.Text.Occurrences
import VarsAdvisor.Proofs.Text.Trim

/-!
# Advice on every error

Whatever a chat model does when it is asked, short of stopping the work, asking for advice gives
one suggestion for each error (`askAdvice_one_each`). The model's suggestions keep their places:
those that are used stand where the model put them, and the validator's words stand where it gave
none (`getElem?_reconcile`).
-/

namespace VarsAdvisor

open VarsAdvisor.Text

/-! ## The validator's words -/

namespace ErrorLine

/-- The message of an error line is trimmed. -/
theorem message_eq_trim (raw : String) : ∃ cs, (parse raw).message = String.ofList (trim cs) := by
  unfold parse
  split
  · exact ⟨raw.toList, rfl⟩
  · next path message _ => exact ⟨message, rfl⟩

/-- Of an error at a key path the validator's words are the message alone: the path is dropped. -/
theorem validatorMessage_dotted {path message : String} (hpath : ':' ∉ path.toList)
    (hmessage : isBlankText message = false) :
    validatorMessage (path ++ ":" ++ message) = trimmed message := by
  have hcut : cutAt [':'] (path ++ ":" ++ message).toList = some (path.toList, message.toList) := by
    refine cutAt_singleton_eq_some_iff.2 ⟨?_, hpath⟩
    simp
  have hparse : (parse (path ++ ":" ++ message)).message = trimmed message := by
    unfold parse
    rw [hcut]
    rfl
  have hne : trimmed message ≠ "" := by
    intro hempty
    rw [← isBlankText_trimmed, hempty] at hmessage
    cases hmessage
  unfold validatorMessage
  rw [hparse, if_neg hne]

/-- The validator has words for every error that is not blank. -/
theorem isBlankText_validatorMessage {raw : String} (h : isBlankText raw = false) :
    isBlankText (validatorMessage raw) = false := by
  unfold validatorMessage
  dsimp only
  split
  · rw [isBlankText_trimmed]
    exact h
  · next hmessage =>
    obtain ⟨cs, hcs⟩ := message_eq_trim raw
    rw [hcs] at hmessage ⊢
    exact isBlankText_ofList_trim hmessage

end ErrorLine

namespace Suggestion

variable {suggestions : List WideText} {errors : List String}

/-! ## Reconciled suggestions -/

/-- As many suggestions as errors are left as they are. -/
theorem reconcile_of_length_eq (h : suggestions.length = errors.length) :
    reconcile suggestions errors = suggestions := by
  unfold reconcile
  rw [← h, List.take_length, h, List.drop_length, List.map_nil, List.append_nil]

/-- At the place of an error stands the model's suggestion, or the validator's words if there is
none. -/
theorem getElem?_reconcile {i : Nat} (h : i < errors.length) :
    (reconcile suggestions errors)[i]? =
      if i < min suggestions.length errors.length then suggestions[i]?
      else (errors[i]?).map ownWords := by
  unfold reconcile
  split
  · next hi =>
    have htaken : i < (suggestions.take errors.length).length := by
      rwa [List.length_take, Nat.min_comm]
    rw [List.getElem?_append_left htaken, List.getElem?_take_of_lt h]
  · next hi =>
    have hlong : suggestions.length ≤ i := by omega
    rw [List.take_of_length_le (hlong.trans h.le), List.getElem?_append_right hlong,
      List.getElem?_map, List.getElem?_drop, Nat.add_sub_cancel' hlong]

theorem reconcile_reconcile (suggestions : List WideText) (errors : List String) :
    reconcile (reconcile suggestions errors) errors = reconcile suggestions errors :=
  reconcile_of_length_eq (length_reconcile suggestions errors)

end Suggestion

open Suggestion

/-! ## Asking for advice -/

namespace Collaborators

variable {σ : Type}

/-- The model does not stop the work that asks it: it answers the prompt or fails with an error. -/
def Responds (c : Collaborators σ) (p : Prompt) (s : σ) : Prop :=
  (∃ completion, (c.model p s).1 = .answer completion) ∨
    ∃ kind message, (c.model p s).1 = .crash (.error kind message)

/-- The suggestions that the model's answer to a prompt holds, if there is a model, it answers, and
its answer can be read. -/
def suggestions? (c : Collaborators σ) (hasModel : Bool) (p : Prompt) (s : σ) :
    Option (List WideText) :=
  if hasModel then
    match (c.model p s).1 with
    | .answer completion => (parseReply completion.content).toOption
    | _ => none
  else none

end Collaborators

/-- One suggestion for each error: the model's own if it gives as many as there are errors. With
another number the policy decides, and without any from the model they are the validator's words. -/
structure Suggestion.Advice.OneEach (policy : Policy) (errors : List String)
    (given : Option (List WideText)) (advice : Advice) : Prop where
  length : advice.suggestions.length = errors.length
  returned : advice.returned = given.map List.length
  without : given = none →
    advice.source = .validator ∧ advice.suggestions = errors.map ownWords
  asMany : ∀ suggestions, given = some suggestions → suggestions.length = errors.length →
    advice.source = .llm ∧ advice.suggestions = suggestions
  rejected : ∀ suggestions, given = some suggestions → suggestions.length ≠ errors.length →
    policy = .reject →
      advice.source = .validator ∧ advice.suggestions = errors.map ownWords
  reconciled : ∀ suggestions, given = some suggestions → suggestions.length ≠ errors.length →
    policy = .reconcile → advice.source = .llm ∧ ∀ i < errors.length,
      advice.suggestions[i]? =
        if i < min suggestions.length errors.length then suggestions[i]?
        else (errors[i]?).map ownWords

namespace Suggestion.Advice

variable {policy : Policy} {errors : List String}

theorem oneEach_fallback : (fallback errors none).OneEach policy errors none where
  length := List.length_map _
  returned := rfl
  without _ := ⟨rfl, rfl⟩
  asMany _ h := by cases h
  rejected _ h := by cases h
  reconciled _ h := by cases h

theorem oneEach_ofSuggestions (c : Completion) (suggestions : List WideText) :
    (ofSuggestions policy errors c suggestions).OneEach policy errors (some suggestions) := by
  have hlength := length_ofSuggestions policy errors c suggestions
  unfold ofSuggestions at hlength ⊢
  split
  · next hmany =>
    exact
      { length := hmany
        returned := rfl
        without := by intro h; cases h
        asMany := by rintro _ ⟨⟩ -; exact ⟨rfl, rfl⟩
        rejected := by rintro _ ⟨⟩ hother; exact absurd hmany hother
        reconciled := by rintro _ ⟨⟩ hother; exact absurd hmany hother }
  · next hother =>
    rw [if_neg hother] at hlength
    cases policy with
    | reject =>
      exact
        { length := hlength
          returned := rfl
          without := by intro h; cases h
          asMany := by rintro _ ⟨⟩ hmany; exact absurd hmany hother
          rejected := by rintro _ ⟨⟩ - -; exact ⟨rfl, rfl⟩
          reconciled := by intro _ _ _ h; cases h }
    | reconcile =>
      exact
        { length := hlength
          returned := rfl
          without := by intro h; cases h
          asMany := by rintro _ ⟨⟩ hmany; exact absurd hmany hother
          rejected := by intro _ _ _ h; cases h
          reconciled := by
            rintro _ ⟨⟩ - -
            exact ⟨rfl, fun i hi => getElem?_reconcile hi⟩ }

/-- The advice that a model's answer gives is drawn from what can be read in it. -/
theorem oneEach_ofAnswer (answer : Option Completion) :
    (ofAnswer policy errors answer).OneEach policy errors
      (answer.bind fun c => (parseReply c.content).toOption) := by
  unfold ofAnswer
  cases answer with
  | none => exact oneEach_fallback
  | some c =>
    rw [Option.bind_some]
    dsimp only
    cases parseReply c.content with
    | error e => exact oneEach_fallback
    | ok suggestions => exact oneEach_ofSuggestions c suggestions

end Suggestion.Advice

/-- Asking a model that answers or fails ends with the advice that its answer gives. -/
theorem run_askAdvice_of_responds {σ : Type} {c : Collaborators σ} {s : σ} {hasModel : Bool}
    {errors : List String} {d : Document} {context : Context} (hne : errors ≠ [])
    (hmodel : hasModel = true → c.Responds (prompt errors d.numbered context) s)
    (policy : Policy) :
    ∃ answer s',
      (askAdvice hasModel policy errors d context).run c s =
        (.done (Advice.ofAnswer policy errors answer), s') ∧
      c.suggestions? hasModel (prompt errors d.numbered context) s =
        answer.bind fun c => (parseReply c.content).toOption := by
  unfold askAdvice Collaborators.suggestions?
  rw [if_neg hne]
  cases hasModel with
  | false => exact ⟨none, s, rfl, rfl⟩
  | true =>
    have hresponds := hmodel rfl
    unfold Collaborators.Responds at hresponds
    simp only [if_true, Script.run]
    generalize c.model (prompt errors d.numbered context) s = reply at hresponds ⊢
    obtain ⟨reaction, s'⟩ := reply
    dsimp only at hresponds
    rcases hresponds with ⟨completion, rfl⟩ | ⟨kind, message, rfl⟩
    · exact ⟨some completion, s', rfl, rfl⟩
    · exact ⟨none, s', rfl, rfl⟩

/-- **One suggestion for each error.** Asking for advice on errors always comes to an end if the
model answers or fails, and the advice has one suggestion for each error, wherever it comes from.
Suggestions that have been reconciled stay as they are, and the validator has words for every error
that is not blank. -/
theorem askAdvice_one_each {σ : Type} (c : Collaborators σ) (s : σ) (hasModel : Bool)
    (policy : Policy) (errors : List String) (d : Document) (context : Context)
    (hne : errors ≠ [])
    (hmodel : hasModel = true → c.Responds (prompt errors d.numbered context) s) :
    (∃ advice s', (askAdvice hasModel policy errors d context).run c s = (.done advice, s') ∧
      advice.OneEach policy errors
        (c.suggestions? hasModel (prompt errors d.numbered context) s)) ∧
    (∀ suggestions,
      reconcile (reconcile suggestions errors) errors = reconcile suggestions errors) ∧
    ∀ error, isBlankText error = false →
      isBlankText (ErrorLine.validatorMessage error) = false := by
  refine ⟨?_, fun suggestions => reconcile_reconcile suggestions errors,
    fun _ h => ErrorLine.isBlankText_validatorMessage h⟩
  obtain ⟨answer, s', hrun, hgiven⟩ := run_askAdvice_of_responds hne hmodel policy
  rw [hgiven]
  exact ⟨_, s', hrun, Advice.oneEach_ofAnswer answer⟩

/-- A model has one suggestion for two errors. The other one is filled in. -/
theorem askAdvice_one_each_of_two :
    let c : Collaborators Unit := ⟨fun _ s => (.silence, s),
      fun _ s => (.answer ⟨"Sure: [\"Use a number\"]", "m", 5, 7⟩, s)⟩
    let errors := ["a.b: 'x' is not a int.", "a.c:"]
    let d : Document := ⟨["a:", "  b: x"]⟩
    let context : Context := ⟨none, none, none, none⟩
    errors ≠ [] ∧ c.Responds (prompt errors d.numbered context) () ∧
      ∃ advice s', (askAdvice true .reconcile errors d context).run c () = (.done advice, s') ∧
        advice.returned = some 1 ∧ advice.source = .llm ∧
        advice.suggestions[0]? = some (WideText.ofString "Use a number") ∧
        advice.suggestions[1]? = some (WideText.ofString "a.c:") := by
  intro c errors d context
  have hne : errors ≠ [] := by decide
  have hresponds : c.Responds (prompt errors d.numbered context) () := .inl ⟨_, rfl⟩
  obtain ⟨⟨advice, s', hrun, heach⟩, -⟩ :=
    askAdvice_one_each c () true .reconcile errors d context hne fun _ => hresponds
  have hgiven : c.suggestions? true (prompt errors d.numbered context) () =
      some [WideText.ofString "Use a number"] := by
    decide +kernel
  rw [hgiven] at heach
  obtain ⟨hsource, hplace⟩ := heach.reconciled _ rfl (by decide) rfl
  refine ⟨hne, hresponds, advice, s', hrun, heach.returned, hsource, hplace 0 (by decide), ?_⟩
  rw [hplace 1 (by decide)]
  decide +kernel

end VarsAdvisor

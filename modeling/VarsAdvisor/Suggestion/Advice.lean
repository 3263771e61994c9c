import VarsAdvisor.KeyPath.ErrorLine
import VarsAdvisor.Suggestion.Prompt
import VarsAdvisor.Suggestion.Reply

/-!
# Advice on errors

Advice holds exactly one suggestion per error. The model's suggestions are used when there are as
many as errors. With another number, the policy decides: `reconcile` drops those in excess and
fills in for those that are missing with the validator's own words, `reject` uses the validator's
words throughout.
-/

namespace VarsAdvisor.Suggestion

open VarsAdvisor.Text

/-- What to do when the number of suggestions is not that of the errors. -/
inductive Policy where
  | reconcile
  | reject
  deriving DecidableEq, Repr

/-- The name of a policy. -/
def Policy.name : Policy → String
  | .reconcile => "reconcile"
  | .reject => "reject"

/-- Who worded the suggestions. -/
inductive Source where
  | llm
  | validator
  deriving DecidableEq, Repr

/-- The name of a source. -/
def Source.name : Source → String
  | .llm => "llm"
  | .validator => "validator"

/-- An answer of a chat model. -/
structure Completion where
  content : WideText
  model : WideText
  promptTokens : Int
  completionTokens : Int
  deriving DecidableEq, Repr

/-- One suggestion per error, and where they come from. `returned` is the number of suggestions in
the model's reply, if that could be read. -/
structure Advice where
  suggestions : List WideText
  source : Source
  model : WideText
  promptTokens : Int
  completionTokens : Int
  returned : Option Nat
  deriving DecidableEq, Repr

/-- The words about a reply with another number of suggestions than errors. -/
def mismatchMessage (expected returned : Nat) : String :=
  s!"expected {expected} suggestion(s), model returned {returned}"

/-- The validator's own words for an error, as a suggestion. -/
def ownWords (error : String) : WideText :=
  ErrorLine.validatorMessage error

/-- As many suggestions as errors: those in excess are dropped, and the validator's words fill in
for those that are missing. -/
def reconcile (suggestions : List WideText) (errors : List String) : List WideText :=
  suggestions.take errors.length ++
    (errors.drop (suggestions.take errors.length).length).map ownWords

namespace Advice

/-- The validator's own words for every error. -/
def fallback (errors : List String) (returned : Option Nat) : Advice :=
  ⟨errors.map ownWords, .validator, "", 0, 0, returned⟩

/-- Advice without errors. -/
def empty : Advice := fallback [] none

/-- The advice that a model's suggestions give. -/
def ofSuggestions (policy : Policy) (errors : List String) (c : Completion)
    (suggestions : List WideText) : Advice :=
  if suggestions.length = errors.length then
    ⟨suggestions, .llm, c.model, c.promptTokens, c.completionTokens, some suggestions.length⟩
  else match policy with
    | .reject => fallback errors (some suggestions.length)
    | .reconcile =>
      ⟨reconcile suggestions errors, .llm, c.model, c.promptTokens, c.completionTokens,
        some suggestions.length⟩

/-- The advice that a model's answer gives; without an answer it is the validator's. -/
def ofAnswer (policy : Policy) (errors : List String) : Option Completion → Advice
  | none => fallback errors none
  | some c => match parseReply c.content with
    | .error _ => fallback errors none
    | .ok suggestions => ofSuggestions policy errors c suggestions

end Advice

end VarsAdvisor.Suggestion

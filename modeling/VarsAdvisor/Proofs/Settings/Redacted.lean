import VarsAdvisor.Proofs.Text.WideText
import VarsAdvisor.Settings.Basic

/-!
# What redacted settings show

Redacted settings have all fields, in their order, and show each as it is unless its name may be that
of a secret (`lookup_redacted`). A key that is there is never shown, so nothing can be learned about
it. The suppressed keywords have such a name as well, and are hidden together with it whenever there
are any.
-/

namespace VarsAdvisor

namespace Settings

variable {s : Settings}

/-! ## Fields by name -/

theorem lookup_map_snd (members : List (String × Json)) (f : String → Json → Json) (name : String) :
    (members.map fun m => (m.1, f m.1 m.2)).lookup name = (members.lookup name).map (f name) := by
  induction members with
  | nil => rfl
  | cons m rest ih =>
    rw [List.map_cons, List.lookup_cons, List.lookup_cons]
    split
    · next heq => rw [beq_iff_eq.1 heq, Option.map_some]
    · exact ih

/-- A value as it is shown under a name. -/
def shown (name : String) (v : Json) : Json :=
  if isSecret name && v.isTruthy then mask else v

theorem redacted_eq (s : Settings) : s.redacted = s.fields.map fun m => (m.1, shown m.1 m.2) :=
  rfl

theorem lookup_redacted (s : Settings) (name : String) :
    s.redacted.lookup name = (s.fields.lookup name).map (shown name) :=
  lookup_map_snd s.fields shown name

theorem keys_redacted (s : Settings) : s.redacted.map (·.1) = s.fields.map (·.1) := by
  rw [redacted_eq, List.map_map]
  rfl

/-! ## Names of secrets -/

/-- Two fields have names like those of secrets, and only one of them is a secret. -/
theorem secret_fields (s : Settings) : (s.fields.map (·.1)).filter isSecret =
    ["llm_api_key", "suppressed_keywords"] := by
  have hnames : s.fields.map (·.1) = (standard ⟨"", []⟩).fields.map (·.1) := rfl
  rw [hnames]
  decide

theorem lookup_redacted_of_ne {name : String} (hkey : name ≠ "llm_api_key")
    (hkeywords : name ≠ "suppressed_keywords") : s.redacted.lookup name = s.fields.lookup name := by
  rw [lookup_redacted]
  cases hlookup : s.fields.lookup name with
  | none => rfl
  | some v =>
    obtain ⟨before, after, hfields, -⟩ := List.lookup_eq_some_iff.1 hlookup
    have hname : name ∈ s.fields.map (·.1) := by simp [hfields]
    have hsecret : ¬ isSecret name = true := by
      intro hsecret
      have hmem := List.mem_filter.2 ⟨hname, hsecret⟩
      rw [secret_fields] at hmem
      simp [hkey, hkeywords] at hmem
    simp [shown, hsecret]

theorem shown_key {key : String} (h : key ≠ "") : shown "llm_api_key" (.str key) = mask := by
  have hsecret : isSecret "llm_api_key" = true := by decide
  simp [shown, hsecret, Json.isTruthy, h]

theorem shown_keywords (keywords : List Json) :
    shown "suppressed_keywords" (.arr keywords) = .arr keywords ↔ keywords = [] := by
  have hsecret : isSecret "suppressed_keywords" = true := by decide
  simp [shown, hsecret, Json.isTruthy, mask]

theorem lookup_keywords (s : Settings) :
    s.fields.lookup "suppressed_keywords" = some (.ofTexts s.suppressedKeywords) :=
  rfl

/-! ## What is shown -/

/-- **Redacted settings tell nothing about a key, and hide nothing else but keywords.** All fields are
there, and all but the key are shown as they are exactly if no keywords are suppressed. -/
theorem redacted_hides_key_and_keywords (s : Settings) :
    (∀ key, s.serviceKey ≠ "" → key ≠ "" →
      redacted { s with serviceKey := key } = s.redacted) ∧
    s.redacted.map (·.1) = s.fields.map (·.1) ∧
    (∀ name, name ≠ "llm_api_key" → name ≠ "suppressed_keywords" →
      s.redacted.lookup name = s.fields.lookup name) ∧
    ((∀ name, name ≠ "llm_api_key" → s.redacted.lookup name = s.fields.lookup name) ↔
      s.suppressedKeywords = []) := by
  refine ⟨?_, keys_redacted s, fun name => lookup_redacted_of_ne, ?_⟩
  · intro key hs hkey
    simp only [redacted_eq, fields, List.map_cons, shown_key hs, shown_key hkey]
  · have hkeywords : s.redacted.lookup "suppressed_keywords" =
        s.fields.lookup "suppressed_keywords" ↔ s.suppressedKeywords = [] := by
      rw [lookup_redacted, lookup_keywords, Option.map_some, Option.some_inj,
        Json.ofTexts, shown_keywords, List.map_eq_nil_iff]
    constructor
    · exact fun h => hkeywords.1 (h _ (by decide))
    · intro hnone name hname
      by_cases hother : name = "suppressed_keywords"
      · rw [hother, hkeywords.2 hnone]
      · exact lookup_redacted_of_ne hname hother

/-- The standard keywords are hidden. -/
theorem redacted_standard_keywords :
    let s := standard ⟨"/", ["ws"]⟩
    s.redacted.lookup "suppressed_keywords" = some mask ∧
      s.fields.lookup "suppressed_keywords" =
        some (.ofTexts ["indent", "indented", "align"]) ∧
      s.redacted.lookup "suppressed_keywords" ≠ s.fields.lookup "suppressed_keywords" := by
  intro s
  have hmask : s.redacted.lookup "suppressed_keywords" = some mask := by rfl
  refine ⟨hmask, rfl, ?_⟩
  rw [hmask]
  simp [mask, lookup_keywords, Json.ofTexts]

end Settings

end VarsAdvisor

import VarsAdvisor.Finding.Linter
import VarsAdvisor.Proofs.Except
import VarsAdvisor.Proofs.Text.Parts
import VarsAdvisor.Proofs.Text.WideText

/-!
# Reports of linters

Of a linter's findings exactly those are kept whose messages mention no keyword, in whatever case
(`LintReport.mem_suppress`). They stay in their order, and all others are counted
(`LintReport.length_suppress`).

What a linter prints is a string, and so are the messages that are read from it
(`Linter.plain_ansible`, `Linter.plain_yaml`): a report on a linter's run has no surrogates in it,
with and without the findings that are left out (`Linter.Plain.report`,
`LintReport.IsPlain.suppress`).
-/

namespace VarsAdvisor

open VarsAdvisor.Text

/-! ## Findings that are kept -/

theorem Finding.mentions_iff {keywords : List String} {f : Finding} :
    f.mentions keywords = true ↔
      ∃ k ∈ keywords, lower k.toList <:+: lower f.message.faces := by
  simp only [mentions, List.any_eq_true, occurs_iff]

namespace LintReport

variable {keywords : List String} {r : LintReport}

theorem mem_suppress {f : Finding} :
    f ∈ (r.suppress keywords).findings ↔
      f ∈ r.findings ∧ ∀ k ∈ keywords, ¬ lower k.toList <:+: lower f.message.faces := by
  show f ∈ r.findings.filter (fun f => !f.mentions keywords) ↔ _
  rw [List.mem_filter, Bool.not_eq_true', ← Bool.not_eq_true, Finding.mentions_iff]
  simp only [not_exists, not_and]

theorem suppress_sublist (keywords : List String) (r : LintReport) :
    (r.suppress keywords).findings.Sublist r.findings :=
  List.filter_sublist

theorem length_suppress (keywords : List String) (r : LintReport) :
    (r.suppress keywords).findings.length + (r.suppress keywords).suppressed =
      r.findings.length := by
  let mentioned (f : Finding) : Bool := f.mentions keywords
  show (r.findings.filter fun f => !mentioned f).length + r.findings.countP mentioned = _
  rw [← List.countP_eq_length_filter, Nat.add_comm]
  simpa using (r.findings.length_eq_countP_add_countP mentioned).symm

end LintReport

/-- A keyword is found in capitals, and in the middle of a word. -/
example : (LintReport.suppress Finding.layoutKeywords ⟨"yamllint", "",
    [⟨"yamllint", 1, none, .warning, "Wrong INDENTATION", none⟩,
      ⟨"yamllint", 2, none, .error, "duplication of key", none⟩], 0, none⟩).findings.map (·.line) =
    [2] := by
  decide

/-! ## Messages -/

theorem AnsibleLint.isString_of_finding {message : List Char} {place : Locator} {f : Finding}
    (h : finding message place = .ok f) : f.message.isString = true := by
  unfold finding at h
  obtain ⟨line, -, h⟩ := except_bind_ok.1 h
  obtain ⟨column, -, h⟩ := except_bind_ok.1 h
  cases h
  exact WideText.isString_ofString _

theorem AnsibleLint.isString_of_readLines {waiting : Option (List Char)} {lines : List (List Char)}
    {findings : List Finding} (h : readLines waiting lines = .ok findings) :
    ∀ f ∈ findings, f.message.isString = true := by
  induction lines generalizing waiting findings with
  | nil =>
    cases h
    exact List.forall_mem_nil _
  | cons raw rest ih =>
    unfold readLines at h
    dsimp only at h
    split at h
    · exact ih h
    · split at h
      · obtain ⟨f, hf, h⟩ := except_bind_ok.1 h
        obtain ⟨fs, hfs, h⟩ := except_bind_ok.1 h
        cases h
        exact List.forall_mem_cons.2 ⟨isString_of_finding hf, ih hfs⟩
      · exact ih h

theorem Yamllint.isString_of_parse {stdout : String} {findings : List Finding}
    (h : parse stdout = .ok findings) : ∀ f ∈ findings, f.message.isString = true := by
  intro f hf
  obtain ⟨entry, -, hentry⟩ := except_mapM_ok_mem h hf
  obtain ⟨line, -, hentry⟩ := except_bind_ok.1 hentry
  obtain ⟨column, -, hentry⟩ := except_bind_ok.1 hentry
  cases hentry
  exact WideText.isString_ofString _

/-- The messages of all findings are strings. -/
def LintReport.IsPlain (r : LintReport) : Prop :=
  ∀ f ∈ r.findings, f.message.isString = true

theorem LintReport.isPlain_failure (tool detail : String) : (failure tool detail).IsPlain :=
  List.forall_mem_nil _

theorem LintReport.IsPlain.suppress {r : LintReport} (h : r.IsPlain) (keywords : List String) :
    (r.suppress keywords).IsPlain :=
  fun f hf => h f ((suppress_sublist keywords r).subset hf)

/-- All messages that the linter is read to give are strings. -/
def Linter.Plain (l : Linter) : Prop :=
  ∀ (stdout : String) (findings : List Finding), l.read stdout = .ok findings →
    ∀ f ∈ findings, f.message.isString = true

theorem Linter.plain_ansible (executable : String) : (Linter.ansible executable).Plain :=
  fun _ _ h => AnsibleLint.isString_of_readLines h

theorem Linter.plain_yaml (executable : String) : (Linter.yaml executable).Plain :=
  fun _ _ h => Yamllint.isString_of_parse h

theorem Linter.Plain.report {l : Linter} (hl : l.Plain) {reply : Except ToolFailure ToolRun}
    {r : LintReport} (h : l.report reply = .ok r) : r.IsPlain := by
  cases reply with
  | error failure =>
    cases h
    exact LintReport.isPlain_failure _ _
  | ok run =>
    obtain ⟨findings, hread, rfl⟩ := except_map_ok.1 h
    dsimp only
    split
    · exact LintReport.isPlain_failure _ _
    · exact hl _ _ hread

end VarsAdvisor

import VarsAdvisor.Proofs.Document.Positions
import VarsAdvisor.Proofs.Finding.Numbers
import VarsAdvisor.Proofs.Pass.Drawn

/-!
# When a pass gives no report

What tools print is read whatever it is, and a tool that cannot be run is reported on. A pass whose
model answers or reports an error breaks off for three reasons only (`Spoils`): the document is one
on which the reader of YAML itself fails, such as one with collections nested too deep; an error of
the validator names a list position with too many digits; or a linter names a line or a column with
too many digits (`runPass_reports_unless_spoiled`).
-/

namespace VarsAdvisor

open VarsAdvisor.Suggestion VarsAdvisor.Text

namespace Testimony

/-- What testimony about a document breaks a pass off with. -/
inductive Spoils (t : Testimony) (d : Document) : Fault → Prop where
  /-- The reader of YAML fails on the document: a value in it cannot be built, or its collections
  are nested too deep. -/
  | document {m : Yaml.Mishap} (hcheck : Yaml.check d.joinedText = .error m) : Spoils t d (.yaml m)
  /-- The validator prints a row of digits that is too long. -/
  | validator {run : ToolRun} {e : NumeralError} (hrun : t.validation = .ok run)
      (hlong : Overlong run.stdout.toList e) : Spoils t d (.position (.numeral e))
  /-- A linter prints a row of digits that is too long. -/
  | linter {run : ToolRun} {e : NumeralError} (hrun : t.ansible = .ok run ∨ t.yamllint = .ok run)
      (hlong : Overlong run.stdout.toList e) : Spoils t d (.numeral e)

variable {t : Testimony} {crew : Crew} {ansible yamllint : Linter} {a : Assignment} {d : Document}

theorem part_of_mem_outcome {line : String} (h : line ∈ (t.outcome a).errors) :
    ∃ run, t.validation = .ok run ∧ line.toList <:+: run.stdout.toList := by
  unfold outcome at h
  split at h
  · cases h
  · exact Outcome.part_of_mem_errors h

theorem lint_error (hansible : ansible.Counts) (hyamllint : yamllint.Counts)
    {keywords : List String} {e : NumeralError}
    (h : t.lint ansible yamllint keywords a = .error e) :
    ∃ run, (t.ansible = .ok run ∨ t.yamllint = .ok run) ∧ Overlong run.stdout.toList e := by
  unfold lint at h
  split at h
  · rcases except_bind_error.1 h with hfirst | ⟨first, -, h⟩
    · obtain ⟨run, hrun, hlong⟩ := hansible.report_error (except_map_error.1 hfirst)
      exact ⟨run, .inl hrun, hlong⟩
    · rcases except_bind_error.1 h with hsecond | ⟨second, -, h⟩
      · obtain ⟨run, hrun, hlong⟩ := hyamllint.report_error (except_map_error.1 hsecond)
        exact ⟨run, .inr hrun, hlong⟩
      · cases h
  · cases h

/-- No evidence is drawn only where something spoils it. -/
theorem spoils_of_evidence (hansible : ansible.Counts) (hyamllint : yamllint.Counts) {f : Fault}
    (h : t.evidence crew ansible yamllint a d = .error f) : t.Spoils d f := by
  unfold evidence at h
  dsimp only at h
  rcases except_bind_error.1 h with hcheck | ⟨syntaxFinding, -, h⟩
  · obtain ⟨m, hm, rfl⟩ := except_mapError_error.1 hcheck
    exact .document hm
  · rcases except_bind_error.1 h with hlines | ⟨lines, -, h⟩
    · obtain ⟨e, he, rfl⟩ := except_mapError_error.1 hlines
      obtain ⟨raw, hraw, numeral, rfl, hlong⟩ := Document.resolveErrors_error he
      obtain ⟨run, hrun, hpart⟩ := part_of_mem_outcome hraw
      exact .validator hrun (hlong.mono hpart)
    · rcases except_bind_error.1 h with hlint | ⟨reports, -, h⟩
      · obtain ⟨e, he, rfl⟩ := except_mapError_error.1 hlint
        obtain ⟨run, hrun, hlong⟩ := lint_error hansible hyamllint he
        exact .linter hrun hlong
      · cases h

/-- A linter that could not be run is reported on with the reason. -/
theorem lint_failure {keywords : List String} {reports : List LintReport}
    (h : t.lint ansible yamllint keywords a = .ok reports) (hyaml : a.document.isYaml = true) :
    (∀ failure, t.ansible = .error failure →
      reports[0]? = some (.failure ansible.name failure.detail)) ∧
    ∀ failure, t.yamllint = .error failure →
      reports[1]? = some (.failure yamllint.name failure.detail) := by
  rcases lint_ok h with ⟨-, first, second, hfirst, hsecond, rfl⟩ | ⟨hother, -⟩
  · constructor
    · intro failure hfailure
      rw [hfailure] at hfirst
      cases hfirst
      rfl
    · intro failure hfailure
      rw [hfailure] at hsecond
      cases hsecond
      rfl
  · rw [hyaml] at hother
    cases hother

theorem read_of_lint {keywords : List String} {reports : List LintReport}
    (h : t.lint ansible yamllint keywords a = .ok reports) (hyaml : a.document.isYaml = true)
    {run : ToolRun} (hrun : t.yamllint = .ok run) :
    ∃ findings, yamllint.read run.stdout = .ok findings := by
  rcases lint_ok h with ⟨-, first, second, -, hsecond, -⟩ | ⟨hother, -⟩
  · rw [hrun] at hsecond
    obtain ⟨report, hreport, -⟩ := except_map_ok.1 hsecond
    obtain ⟨findings, hfindings, -⟩ := except_map_ok.1 hreport
    exact ⟨findings, hfindings⟩
  · rw [hyaml] at hother
    cases hother

end Testimony

/-- **A pass reports unless it is spoiled.** Whatever the tools and the model say, a pass gives a
report on what each of them said, in which a linter that could not be run has its reason as error;
or it breaks off with something that spoils it. -/
theorem runPass_reports_unless_spoiled {t : Testimony} (ht : t.Speaks) {crew : Crew}
    {ansible yamllint : String} (hcrew : crew.linters = [.ansible ansible, .yaml yamllint])
    (a : Assignment) {e : Editor} {id : OverlayId} (hid : id < e.overlays.length) :
    let d := (e.surfaceOf id).document
    (∃ report e' n, runPass t.collaborators crew a id e 0 = (.done report, e', n) ∧
      t.Supports crew (.ansible ansible) (.yaml yamllint) a d report.evidence ∧
      (a.document.isYaml = true →
        (∀ failure, t.ansible = .error failure →
          report.evidence.lint[0]? = some (.failure AnsibleLint.toolName failure.detail)) ∧
        ∀ failure, t.yamllint = .error failure →
          report.evidence.lint[1]? = some (.failure Yamllint.toolName failure.detail))) ∨
    ∃ f e' n, runPass t.collaborators crew a id e 0 = (.failed f, e', n) ∧ t.Spoils d f := by
  intro d
  obtain ⟨n, hrun⟩ := Testimony.runPass_of_speaks ht hcrew a hid
  cases hevidence : t.evidence crew (.ansible ansible) (.yaml yamllint) a d with
  | error f =>
    rw [hevidence] at hrun
    refine .inr ⟨f, _, n, hrun, ?_⟩
    exact Testimony.spoils_of_evidence (Linter.counts_ansible _) (Linter.counts_yaml _) hevidence
  | ok evidence =>
    rw [hevidence] at hrun
    have hsupport := Testimony.evidence_eq_ok_iff.1 hevidence
    exact .inl ⟨_, _, n, hrun, hsupport, Testimony.lint_failure hsupport.lint⟩

/-- A linter that names line zero in 4301 digits spoils the pass. -/
theorem runPass_spoiled_by_long_number :
    let output := String.ofList (List.replicate 4301 '0' ++ ':' :: "1: [error] odd".toList)
    let t : Testimony :=
      ⟨.ok ⟨[], 0, "Validation success!", ""⟩, .ok ⟨[], 0, "", ""⟩, .ok ⟨[], 1, output, ""⟩,
        fun _ => .crash (.error "OSError" "gone")⟩
    let crew : Crew := ⟨"yamale", [.ansible "ansible-lint", .yaml "yamllint"], true, .reject, []⟩
    let a : Assignment := ⟨.ofText "v.yml", some (.ofText "s.yml"), ⟨none, none, none, none⟩, none⟩
    let e : Editor := ⟨[.ofLines ["devices:", "  - name: a"]], [.onSurface 0], [], 0⟩
    t.Speaks ∧ ∃ f e' n, runPass t.collaborators crew a 0 e 0 = (.failed f, e', n) ∧
      t.Spoils (e.surfaceOf 0).document f := by
  intro output t crew a e
  have ht : t.Speaks := fun _ => .inr ⟨_, _, rfl⟩
  have hid : 0 < e.overlays.length := by decide
  have hcrew : crew.linters = [.ansible "ansible-lint", .yaml "yamllint"] := rfl
  have hyaml : a.document.isYaml = true := by decide +kernel
  have hread : Yamllint.parse output = .error (.tooLong 4301) := by
    have hline : Yamllint.readLine? ('1' :: ':' :: "1: [error] odd".toList) =
        some ⟨['1'], ['1'], .error, "odd".toList, none⟩ := by decide +kernel
    have hpath : Yamllint.readAfterPath? (':' :: "1: [error] odd".toList) = none := by
      decide +kernel
    have hbreaks : ∀ c ∈ "1: [error] odd".toList, isLineBreak c = false := by
      have hnone : "1: [error] odd".toList.any isLineBreak = false := by decide +kernel
      exact fun c hc => Bool.eq_false_iff.2 (List.any_eq_false.1 hnone c hc)
    have hzero : ∀ d ∈ List.replicate 4301 '0', isAsciiDigit d = true := by
      intro d hd
      rw [(List.mem_replicate.1 hd).2]
      decide
    have hlong : maxNumeralDigits < (List.replicate 4301 '0').length := by
      rw [List.length_replicate]
      decide
    have hrefused := Yamllint.parse_of_long_line hline hpath hbreaks hzero hlong
    rw [List.length_replicate] at hrefused
    exact hrefused
  clear_value output
  refine ⟨ht, ?_⟩
  rcases runPass_reports_unless_spoiled ht hcrew a hid with ⟨_, _, _, -, hsupport, -⟩ | hspoiled
  · obtain ⟨findings, hfindings⟩ := Testimony.read_of_lint hsupport.lint hyaml rfl
    cases hread.symm.trans hfindings
  · exact hspoiled

end VarsAdvisor

import VarsAdvisor.Proofs.Text.Content
import VarsAdvisor.Schema.Outcome

/-!
# Reports of the schema validator

A report that rejects documents is a banner, a line with the failure marker, and for each document a
header line and its errors. However it is laid out, reading it gives the errors of all documents in
their order (`ofRun_report`). The message of a rejection has the same errors, and a run is a success
only if nothing speaks against it (`ofRun_reads_reports`).
-/

namespace VarsAdvisor.Outcome

open VarsAdvisor.Text

/-- A text that can stand for an error in a report: a tight line that is not empty and does not read
as a header. -/
structure IsErrorText (error : String) : Prop where
  nonempty : error.toList ≠ []
  tight : IsTight error.toList
  line : IsLine error.toList
  notHeader : startsWith error reportHeader = false

instance (error : String) : Decidable (IsErrorText error) :=
  decidable_of_iff (error.toList ≠ [] ∧ IsTight error.toList ∧ IsLine error.toList ∧
      startsWith error reportHeader = false)
    ⟨fun h => ⟨h.1, h.2.1, h.2.2.1, h.2.2.2⟩, fun h => ⟨h.nonempty, h.tight, h.line, h.notHeader⟩⟩

/-- What a report says about one document. -/
structure Rejected where
  header : String
  errors : List String
  headed : startsWith header reportHeader = true
  errorTexts : ∀ error ∈ errors, IsErrorText error

/-- A report that rejects documents. -/
structure Report where
  banner : List String
  marker : String
  documents : List Rejected
  unmarked : ∀ line ∈ banner, contains line failureMarker = false
  marked : contains marker failureMarker = true

namespace Report

/-- The lines of a report. -/
def lines (r : Report) : List String :=
  r.banner ++ r.marker :: r.documents.flatMap fun d => d.header :: d.errors

/-- The errors of all documents. -/
def errors (r : Report) : List String :=
  r.documents.flatMap Rejected.errors

end Report

variable {run : ToolRun} {stdout text : String} {texts : List String}

/-! ## Content lines -/

theorem contentLines_eq (text : String) :
    contentLines text = (content (splitLines text.toList)).map String.ofList := rfl

theorem contentLines_eq_nil_iff : contentLines text = [] ↔ isBlankText text = true := by
  rw [contentLines_eq, List.map_eq_nil_iff, content_splitLines_eq_nil_iff, isBlankText,
    List.all_eq_true]

/-- What one line shows: itself, trimmed, unless it is blank. -/
def shown (line : String) : List String :=
  (content [line.toList]).map String.ofList

theorem shown_cases (line : String) : shown line = [] ∨ shown line = [trimmed line] := by
  unfold shown content trimmed
  by_cases htrim : trim line.toList = []
  · exact .inl (by simp [htrim])
  · exact .inr (by simp [htrim])

theorem shown_of_tight (hne : text.toList ≠ []) (h : IsTight text.toList) :
    shown text = [text] := by
  rw [shown, content_of_tight hne h, List.map_singleton, String.ofList_toList]

theorem flatMap_shown_of_tight (h : ∀ t ∈ texts, t.toList ≠ [] ∧ IsTight t.toList) :
    texts.flatMap shown = texts := by
  induction texts with
  | nil => rfl
  | cons t rest ih =>
    rw [List.forall_mem_cons] at h
    rw [List.flatMap_cons, shown_of_tight h.1.1 h.1.2, ih h.2, List.singleton_append]

theorem shown_of_part {core : List Char} (hne : core ≠ []) (h : IsTight core)
    (hpart : core <:+: text.toList) : shown text = [trimmed text] := by
  have htrim : trim text.toList ≠ [] := by
    intro hnil
    rw [← infix_trim_iff hne h, hnil, List.infix_nil] at hpart
    exact hne hpart
  simp [shown, content, trimmed, htrim]

/-- The content of an output is what the lines show that are printed in it. -/
theorem contentLines_of_prints (h : Prints texts text.toList) :
    contentLines text = texts.flatMap shown := by
  rw [contentLines_eq, content_of_prints h]
  clear h
  induction texts with
  | nil => rfl
  | cons t rest ih =>
    rw [List.map_cons, content_cons, List.map_append, ih, List.flatMap_cons]
    rfl

/-! ## Markers and headers -/

theorem isTight_failureMarker : IsTight failureMarker.toList := by
  decide

theorem isTight_reportHeader : IsTight reportHeader.toList := by
  decide

theorem contains_failureMarker_iff :
    contains text failureMarker = true ↔ failureMarker.toList <:+: text.toList :=
  occurs_iff

/-- A line has the failure marker just if it shows it. -/
theorem contains_trimmed (line : String) :
    contains (trimmed line) failureMarker = contains line failureMarker := by
  rw [Bool.eq_iff_iff, contains_failureMarker_iff, contains_failureMarker_iff, trimmed,
    String.toList_ofList, infix_trim_iff (by decide) isTight_failureMarker]

/-- Behind the first line with the failure marker. -/
theorem afterMarker_append {front : List String} {marker : String}
    (hfront : ∀ line ∈ front, contains line failureMarker = false)
    (hmarker : contains marker failureMarker = true) (rest : List String) :
    afterMarker (front ++ marker :: rest) = rest := by
  induction front with
  | nil => rw [List.nil_append, afterMarker, if_pos hmarker]
  | cons line front ih =>
    rw [List.forall_mem_cons] at hfront
    rw [List.cons_append, afterMarker, if_neg (by simp [hfront.1]), ih hfront.2]

theorem afterMarker_suffix (lines : List String) : afterMarker lines <:+ lines := by
  induction lines with
  | nil => exact List.suffix_rfl
  | cons line rest ih =>
    rw [afterMarker]
    split
    · exact List.suffix_cons line rest
    · exact ih.trans (List.suffix_cons line rest)

theorem startsWith_iff {start : String} :
    startsWith text start = true ↔ start.toList <+: text.toList :=
  List.isPrefixOf_iff_prefix

namespace Rejected

/-- What the part of the report about a document shows. -/
theorem flatMap_shown (d : Rejected) :
    (d.header :: d.errors).flatMap shown = trimmed d.header :: d.errors := by
  have hheader : shown d.header = [trimmed d.header] :=
    shown_of_part (by decide) isTight_reportHeader (startsWith_iff.1 d.headed).isInfix
  have herrors : d.errors.flatMap shown = d.errors :=
    flatMap_shown_of_tight fun error h =>
      ⟨(d.errorTexts error h).nonempty, (d.errorTexts error h).tight⟩
  rw [List.flatMap_cons, hheader, herrors]
  rfl

/-- Of this, the header is left out. -/
theorem filter_shown (d : Rejected) :
    (trimmed d.header :: d.errors).filter (fun line => !startsWith line reportHeader) =
      d.errors := by
  have hheader : startsWith (trimmed d.header) reportHeader = true := by
    rw [startsWith_iff, trimmed, String.toList_ofList]
    exact prefix_trim (by decide) isTight_reportHeader (startsWith_iff.1 d.headed)
  rw [List.filter_cons_of_neg (by simp [hheader]), List.filter_eq_self]
  intro error herror
  simp [(d.errorTexts error herror).notHeader]

end Rejected

/-! ## Reading reports -/

theorem Report.extractErrors_eq (r : Report) (h : Prints r.lines stdout.toList) :
    extractErrors stdout = r.errors := by
  have hmarker : shown r.marker = [trimmed r.marker] :=
    shown_of_part (by decide) isTight_failureMarker (contains_failureMarker_iff.1 r.marked)
  have hmarked : contains (trimmed r.marker) failureMarker = true :=
    (contains_trimmed _).trans r.marked
  have hbanner : ∀ line ∈ r.banner.flatMap shown, contains line failureMarker = false := by
    intro line hline
    obtain ⟨printed, hprinted, hshown⟩ := List.mem_flatMap.1 hline
    rcases shown_cases printed with hnone | hone
    · rw [hnone] at hshown
      cases hshown
    · rw [hone, List.mem_singleton] at hshown
      rw [hshown, contains_trimmed]
      exact r.unmarked printed hprinted
  have hlines : contentLines stdout = r.banner.flatMap shown ++ trimmed r.marker ::
      r.documents.flatMap fun d => trimmed d.header :: d.errors := by
    rw [contentLines_of_prints h, Report.lines, List.flatMap_append, List.flatMap_cons, hmarker,
      List.flatMap_assoc]
    simp only [Rejected.flatMap_shown]
    rfl
  rw [extractErrors, hlines, afterMarker_append hbanner hmarked, List.filter_flatMap]
  simp only [Rejected.filter_shown]
  rfl

/-- However a report is laid out, a run that printed it is read as the rejection with all errors. -/
theorem ofRun_report (r : Report) (h : Prints r.lines run.stdout.toList) :
    ofRun run = rejection r.errors := by
  have hmarker : r.marker ∈ r.lines := List.mem_append_right _ List.mem_cons_self
  have hmarked : contains run.stdout failureMarker = true :=
    contains_failureMarker_iff.2 ((contains_failureMarker_iff.1 r.marked).trans (h.part hmarker))
  rw [ofRun, if_pos hmarked, r.extractErrors_eq h]

/-! ## Reading rejections again -/

/-- What is read as an error could have been printed as one. -/
theorem isErrorText_of_mem (h : text ∈ extractErrors stdout) : IsErrorText text := by
  obtain ⟨hafter, hheader⟩ := List.mem_filter.1 h
  have hcontent : text ∈ contentLines stdout := (afterMarker_suffix _).subset hafter
  rw [contentLines_eq] at hcontent
  obtain ⟨cs, hcs, rfl⟩ := List.mem_map.1 hcontent
  obtain ⟨hmem, hne⟩ := List.mem_filter.1 hcs
  obtain ⟨line, hline, rfl⟩ := List.mem_map.1 hmem
  refine ⟨?_, ?_, ?_, by simpa using hheader⟩
  · rw [String.toList_ofList]
    simpa using hne
  · rw [String.toList_ofList]
    exact isTight_trim line
  · rw [String.toList_ofList]
    exact fun c hc => isLine_of_mem_splitLines hline c ((trim_part line).subset hc)

/-- Behind a marker, the message of a rejection is read as its errors. -/
theorem extractErrors_message {errors : List String} (h : ∀ error ∈ errors, IsErrorText error) :
    extractErrors (failureMarker ++ "\n" ++ joined "\n" errors) = errors := by
  have hprints : Prints (failureMarker :: errors)
      (failureMarker ++ "\n" ++ joined "\n" errors).toList := by
    have hnone : ∀ c ∈ ([] : List Char), isBlank c = true := List.forall_mem_nil _
    have hline : IsLine failureMarker.toList := by decide
    have hchars : (failureMarker ++ "\n" ++ joined "\n" errors).toList =
        [] ++ (failureMarker.toList ++ ([] ++ '\n' :: (joined "\n" errors).toList)) := by
      rw [String.toList_append, String.toList_append, List.append_assoc]
      rfl
    rw [hchars]
    exact .more hnone hline hnone (by decide)
      (prints_joined fun error herror => (h error herror).line)
  have hshown : (failureMarker :: errors).flatMap shown = [] ++ failureMarker :: errors := by
    apply flatMap_shown_of_tight
    rw [List.forall_mem_cons]
    exact ⟨⟨by decide, isTight_failureMarker⟩,
      fun error herror => ⟨(h error herror).nonempty, (h error herror).tight⟩⟩
  rw [extractErrors, contentLines_of_prints hprints, hshown,
    afterMarker_append (List.forall_mem_nil _) (by decide), List.filter_eq_self]
  intro error herror
  simp [(h error herror).notHeader]

theorem ofRun_success_iff : (∃ message, ofRun run = .success message) ↔
    contains run.stdout failureMarker = false ∧ isBlankText run.stderr = true ∧
      run.returncode = 0 := by
  unfold ofRun rejection
  dsimp only
  rw [← contentLines_eq_nil_iff, ← Bool.not_eq_true]
  split
  · simp_all
  · split
    · simp_all
    · split <;> simp_all

theorem eq_of_ofRun_schemaFailure {errors : List String} {message : String}
    (h : ofRun run = .schemaFailure errors message) :
    errors = extractErrors run.stdout ∧ message = joined "\n" errors := by
  unfold ofRun at h
  dsimp only at h
  split at h
  · cases h
    exact ⟨rfl, rfl⟩
  · split at h
    · cases h
    · split at h <;> cases h

/-- **Reports are read without loss.** A run of the validator that printed a report, whatever else
came of it, is a rejection with the errors of all documents. The message of any rejection, behind
the failure marker, has the same errors. And a run is a success just if its output is free of the
marker, nothing but blanks was written on the error stream, and the return code is zero. -/
theorem ofRun_reads_reports :
    (∀ (r : Report) (run : ToolRun), Prints r.lines run.stdout.toList →
      ofRun run = rejection r.errors) ∧
    (∀ (run : ToolRun) (errors : List String) (message : String),
      ofRun run = .schemaFailure errors message →
        extractErrors ("Validation failed!\n" ++ message) = errors) ∧
    ∀ run : ToolRun, (∃ message, ofRun run = .success message) ↔
      contains run.stdout "Validation failed!" = false ∧ isBlankText run.stderr = true ∧
        run.returncode = 0 := by
  refine ⟨fun r _ h => ofRun_report r h, ?_, fun _ => ofRun_success_iff⟩
  intro run errors message h
  obtain ⟨rfl, rfl⟩ := eq_of_ofRun_schemaFailure h
  exact extractErrors_message fun _ herror => isErrorText_of_mem herror

/-- A report on two documents. -/
def sitesReport : Report where
  banner := ["Validating sites.yml..."]
  marker := "-- Validation failed! --"
  documents :=
    [⟨"Error validating data 'sites.yml'",
        ["sites.0: Validation failed!", "sites.1.id: 'x' is not a int."], by decide, by decide⟩,
      ⟨"Error validating data 'more.yml'", ["id: Required field missing"], by decide, by decide⟩]
  unmarked := by decide
  marked := by decide

/-- The report with other line ends, blanks and blank lines. -/
def sitesOutput : String :=
  "\n" ++ "Validating sites.yml..." ++ "\r\n " ++ "-- Validation failed! --" ++ " \n" ++
    "Error validating data 'sites.yml'" ++ "\n\t" ++ "sites.0: Validation failed!" ++ "\n\n\t" ++
    "sites.1.id: 'x' is not a int." ++ "\u2028" ++ "Error validating data 'more.yml'" ++ "\n\t" ++
    "id: Required field missing"

/-- A run that ended with zero is rejected all the same. -/
theorem ofRun_reads_reports_of_two :
    let run : ToolRun := ⟨["yamale"], 0, sitesOutput, "warning"⟩
    let errors := ["sites.0: Validation failed!", "sites.1.id: 'x' is not a int.",
      "id: Required field missing"]
    Prints sitesReport.lines run.stdout.toList ∧ ofRun run = rejection errors ∧
      extractErrors ("Validation failed!\n" ++ joined "\n" errors) = errors := by
  intro run errors
  have hnone : ∀ c ∈ ([] : List Char), isBlank c = true := List.forall_mem_nil _
  have htab : ∀ c ∈ ['\t'], isBlank c = true := List.forall_mem_singleton.2 (by decide)
  have hspace : ∀ c ∈ [' '], isBlank c = true := List.forall_mem_singleton.2 (by decide)
  have hfeed : ∀ c ∈ ['\n'], isBlank c = true := List.forall_mem_singleton.2 (by decide)
  have hreturn : ∀ c ∈ ['\r'], isBlank c = true := List.forall_mem_singleton.2 (by decide)
  have hid := @Prints.last "id: Required field missing" _ _ htab (by decide) hnone
  have hmore := @Prints.more "Error validating data 'more.yml'" _ _ _ _ '\n'
    hnone (by decide) hnone (by decide) hid
  have hsecond := @Prints.more "sites.1.id: 'x' is not a int." _ _ _ _ '\u2028'
    htab (by decide) hnone (by decide) hmore
  have hfirst := @Prints.more "sites.0: Validation failed!" _ _ _ _ '\n'
    htab (by decide) hfeed (by decide) hsecond
  have hsites := @Prints.more "Error validating data 'sites.yml'" _ _ _ _ '\n'
    hnone (by decide) hnone (by decide) hfirst
  have hmarker := @Prints.more "-- Validation failed! --" _ _ _ _ '\n'
    hspace (by decide) hspace (by decide) hsites
  have hbanner := @Prints.more "Validating sites.yml..." _ _ _ _ '\n'
    hfeed (by decide) hreturn (by decide) hmarker
  have hprints : Prints sitesReport.lines sitesOutput.toList := by
    convert hbanner using 1
    · rfl
    · unfold sitesOutput
      repeat rw [String.toList_append]
      decide +kernel
  have hrun : ofRun run = rejection errors := ofRun_reads_reports.1 sitesReport run hprints
  exact ⟨hprints, hrun, ofRun_reads_reports.2.1 run errors _ hrun⟩

end VarsAdvisor.Outcome

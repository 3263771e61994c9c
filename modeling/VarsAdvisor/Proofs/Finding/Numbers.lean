import VarsAdvisor.Finding.Linter
import VarsAdvisor.Proofs.Except
import VarsAdvisor.Proofs.Text.Parts

/-!
# Numbers in the output of linters

A linter's output is read whatever it says: it is refused only for a line or column number with too
many digits (`Linter.Counts`). The digits that a reader finds are always a row of digits of the
output.
-/

namespace VarsAdvisor

open VarsAdvisor.Text

/-- The characters are a row of digits of a text. -/
structure Text.DigitsOf (cs ds : List Char) : Prop where
  part : ds <:+: cs
  digits : ∀ d ∈ ds, isDigit d = true

theorem Text.DigitsOf.mono {cs cs' ds : List Char} (h : DigitsOf cs ds) (hpart : cs <:+: cs') :
    DigitsOf cs' ds :=
  ⟨h.part.trans hpart, h.digits⟩

theorem Text.DigitsOf.overlong {cs ds : List Char} (h : DigitsOf cs ds) {e : NumeralError}
    (he : parseDigits ds = .error e) : Overlong cs e :=
  (overlong_of_parseDigits h.digits he).mono h.part

theorem Text.digitsOf_takeWhile (cs : List Char) : DigitsOf cs (cs.takeWhile isDigit) :=
  ⟨(List.takeWhile_prefix isDigit).isInfix, List.all_eq_true.1 List.all_takeWhile⟩

/-! ## ansible-lint -/

namespace AnsibleLint

/-- Line and column are rows of digits of a text. -/
structure Locator.StandsIn (place : Locator) (cs : List Char) : Prop where
  line : DigitsOf cs place.line
  column : ∀ ds ∈ place.column, DigitsOf cs ds

theorem Locator.StandsIn.mono {place : Locator} {cs cs' : List Char} (h : place.StandsIn cs)
    (hpart : cs <:+: cs') : place.StandsIn cs' :=
  ⟨h.line.mono hpart, fun ds hds => (h.column ds hds).mono hpart⟩

theorem standsIn_of_readPlace? {cs : List Char} {place : Locator}
    (h : readPlace? cs = some place) : place.StandsIn cs := by
  unfold readPlace? at h
  dsimp only at h
  split at h
  · cases h
  · split at h
    · cases h
      exact ⟨digitsOf_takeWhile cs, by simp⟩
    · next column hrest =>
      split at h
      · next hcolumn =>
        cases h
        rw [Bool.and_eq_true, List.all_eq_true] at hcolumn
        refine ⟨digitsOf_takeWhile cs, ?_⟩
        intro ds hds
        cases hds
        have hsuffix : ':' :: column <:+ cs := hrest ▸ List.dropWhile_suffix isDigit
        exact ⟨((List.suffix_cons ':' column).trans hsuffix).isInfix, hcolumn.2⟩
      · cases h
    · cases h

theorem standsIn_of_readAfterPath? {cs : List Char} {place : Locator}
    (h : readAfterPath? cs = some place) : place.StandsIn cs := by
  fun_induction readAfterPath? cs with
  | case1 => cases h
  | case2 r place' hplace =>
    cases h
    exact (standsIn_of_readPlace? hplace).mono (List.suffix_cons ':' r).isInfix
  | case3 r hplace ih => exact (ih h).mono (List.suffix_cons ':' r).isInfix
  | case4 c r hc ih => exact (ih h).mono (List.suffix_cons c r).isInfix

theorem standsIn_of_readLocator? {cs : List Char} {place : Locator}
    (h : readLocator? cs = some place) : place.StandsIn cs := by
  cases cs with
  | nil => cases h
  | cons c r =>
    rw [readLocator?] at h
    split at h
    · cases h
    · exact (standsIn_of_readAfterPath? h).mono (List.suffix_cons c r).isInfix

theorem finding_error {message : List Char} {place : Locator} {cs : List Char}
    (hplace : place.StandsIn cs) {e : NumeralError} (h : finding message place = .error e) :
    Overlong cs e := by
  rcases except_bind_error.1 h with hline | ⟨line, -, h⟩
  · exact hplace.line.overlong hline
  · rcases except_bind_error.1 h with hcolumn | ⟨column, -, h⟩
    · cases hds : place.column with
      | none =>
        rw [hds] at hcolumn
        cases hcolumn
      | some ds =>
        rw [hds] at hcolumn
        cases hparse : parseDigits ds with
        | ok n =>
          rw [Option.mapM_some, hparse] at hcolumn
          cases hcolumn
        | error e' =>
          rw [Option.mapM_some, hparse] at hcolumn
          cases hcolumn
          exact (hplace.column ds hds).overlong hparse
    · cases h

theorem readLines_error {lines : List (List Char)} {waiting : Option (List Char)}
    {e : NumeralError} (h : readLines waiting lines = .error e) :
    ∃ line ∈ lines, Overlong line e := by
  induction lines generalizing waiting with
  | nil => cases h
  | cons raw rest ih =>
    have hlater : ∀ waiting, readLines waiting rest = .error e →
        ∃ line ∈ raw :: rest, Overlong line e := by
      intro waiting h
      obtain ⟨line, hline, he⟩ := ih h
      exact ⟨line, List.mem_cons_of_mem raw hline, he⟩
    unfold readLines at h
    dsimp only at h
    split at h
    · exact hlater _ h
    · split at h
      · next message place hplace =>
        rcases except_bind_error.1 h with hfinding | ⟨f, -, h⟩
        · have hraw := finding_error (standsIn_of_readLocator? hplace) hfinding
          exact ⟨raw, List.mem_cons_self, hraw.mono (trim_part raw)⟩
        · rcases except_bind_error.1 h with hrest | ⟨fs, -, h⟩
          · exact hlater _ hrest
          · cases h
      · exact hlater _ h

theorem parse_error {stdout : String} {e : NumeralError} (h : parse stdout = .error e) :
    Overlong stdout.toList e := by
  obtain ⟨line, hline, he⟩ := readLines_error h
  exact he.mono ((pieces_splitLines _).mem line hline)

end AnsibleLint

/-! ## yamllint -/

namespace Yamllint

/-- Line and column are rows of digits of a text. -/
structure Entry.StandsIn (entry : Entry) (cs : List Char) : Prop where
  line : DigitsOf cs entry.line
  column : DigitsOf cs entry.column

theorem Entry.StandsIn.mono {entry : Entry} {cs cs' : List Char} (h : entry.StandsIn cs)
    (hpart : cs <:+: cs') : entry.StandsIn cs' :=
  ⟨h.line.mono hpart, h.column.mono hpart⟩

theorem readNumber?_eq_some {cs ds rest : List Char} (h : readNumber? cs = some (ds, rest)) :
    DigitsOf cs ds ∧ rest <:+ cs := by
  unfold readNumber? at h
  split at h
  · cases h
  · next hrest _ =>
    cases h
    refine ⟨digitsOf_takeWhile cs, ?_⟩
    have hsuffix : ':' :: rest <:+ cs := hrest ▸ List.dropWhile_suffix isDigit
    exact (List.suffix_cons ':' rest).trans hsuffix
  · cases h

theorem standsIn_of_entry {cs : List Char} {entry : Entry}
    (h : readEntry? cs = some entry) : entry.StandsIn cs := by
  unfold readEntry? at h
  obtain ⟨⟨line, afterLine⟩, hnumber, h⟩ := Option.bind_eq_some_iff.1 h
  obtain ⟨hline, hsuffix⟩ := readNumber?_eq_some hnumber
  dsimp only at h
  split at h
  · cases h
  · obtain ⟨afterColumn, -, h⟩ := Option.bind_eq_some_iff.1 h
    obtain ⟨⟨severity, afterLevel⟩, -, h⟩ := Option.bind_eq_some_iff.1 h
    obtain ⟨body, -, h⟩ := Option.bind_eq_some_iff.1 h
    cases h
    exact ⟨hline, (digitsOf_takeWhile afterLine).mono hsuffix.isInfix⟩

theorem standsIn_of_readAfterPath? {cs : List Char} {entry : Entry}
    (h : readAfterPath? cs = some entry) : entry.StandsIn cs := by
  fun_induction readAfterPath? cs with
  | case1 => cases h
  | case2 r entry' hentry =>
    cases h
    exact (standsIn_of_entry hentry).mono (List.suffix_cons ':' r).isInfix
  | case3 r hentry ih => exact (ih h).mono (List.suffix_cons ':' r).isInfix
  | case4 c r hc ih => exact (ih h).mono (List.suffix_cons c r).isInfix

theorem standsIn_of_readLine? {cs : List Char} {entry : Entry}
    (h : readLine? cs = some entry) : entry.StandsIn cs := by
  have hbody : trimStart cs <:+: cs := (List.dropWhile_suffix isBlank).isInfix
  unfold readLine? at h
  dsimp only at h
  split at h
  · next hentry =>
    cases h
    exact (standsIn_of_readAfterPath? hentry).mono hbody
  · exact (standsIn_of_entry h).mono hbody

theorem parse_error {stdout : String} {e : NumeralError} (h : parse stdout = .error e) :
    Overlong stdout.toList e := by
  obtain ⟨entry, hentry, he⟩ := except_mapM_error h
  obtain ⟨line, hline, hread⟩ := List.mem_filterMap.1 hentry
  have hstands := (standsIn_of_readLine? hread).mono ((pieces_splitLines _).mem line hline)
  rcases except_bind_error.1 he with hnumber | ⟨n, -, h⟩
  · exact hstands.line.overlong hnumber
  · rcases except_bind_error.1 h with hnumber | ⟨m, -, h⟩
    · exact hstands.column.overlong hnumber
    · cases h

theorem readAfterPath?_append {front : List Char} (h : ':' ∉ front) (cs : List Char) :
    readAfterPath? (front ++ cs) = readAfterPath? cs := by
  induction front with
  | nil => rfl
  | cons c r ih =>
    rw [List.mem_cons, not_or] at h
    rw [List.cons_append, readAfterPath?.eq_3 _ _ (Ne.symm h.1), ih h.2]

theorem readNumber?_digits {ds : List Char} (hne : ds ≠ []) (hds : ∀ d ∈ ds, isDigit d = true)
    (r : List Char) : readNumber? (ds ++ ':' :: r) = some (ds, r) := by
  have htake : (ds ++ ':' :: r).takeWhile isDigit = ds := by
    rw [List.takeWhile_append_of_pos hds, List.takeWhile_cons_of_neg (by decide), List.append_nil]
  have hdrop : (ds ++ ':' :: r).dropWhile isDigit = ':' :: r := by
    rw [List.dropWhile_append_of_pos hds, List.dropWhile_cons_of_neg (by decide)]
  unfold readNumber?
  rw [htake, hdrop]
  cases ds with
  | nil => exact absurd rfl hne
  | cons d ds => rfl

/-- How many digits the number of a line has makes no difference to what follows it. -/
theorem readEntry?_digits {ds r : List Char} {entry : Entry} (hne : ds ≠ [])
    (hds : ∀ d ∈ ds, isDigit d = true) (h : readEntry? ('1' :: ':' :: r) = some entry) :
    readEntry? (ds ++ ':' :: r) = some { entry with line := ds } := by
  have hone : readNumber? (['1'] ++ ':' :: r) = some (['1'], r) :=
    readNumber?_digits (by decide) (List.forall_mem_singleton.2 (by decide)) r
  unfold readEntry? at h ⊢
  rw [readNumber?_digits hne hds]
  rw [← List.singleton_append, hone] at h
  simp only [Option.bind_eq_bind, Option.bind_some] at h ⊢
  split at h
  · cases h
  · next hcolumn =>
    rw [if_neg hcolumn]
    obtain ⟨afterColumn, hcolumn, h⟩ := Option.bind_eq_some_iff.1 h
    obtain ⟨⟨severity, afterLevel⟩, hlevel, h⟩ := Option.bind_eq_some_iff.1 h
    obtain ⟨body, hbody, h⟩ := Option.bind_eq_some_iff.1 h
    cases h
    simp only [hcolumn, hlevel, hbody, Option.bind_some]
    rfl

/-- A finding whose line number has too many digits is not passed over: the output is refused. -/
theorem parse_of_long_line {ds r : List Char} {entry : Entry}
    (hread : readLine? ('1' :: ':' :: r) = some entry) (hpath : readAfterPath? (':' :: r) = none)
    (hr : ∀ c ∈ r, isLineBreak c = false) (hds : ∀ d ∈ ds, isAsciiDigit d = true)
    (hlong : maxNumeralDigits < ds.length) :
    parse (String.ofList (ds ++ ':' :: r)) = .error (.tooLong ds.length) := by
  have hne : ds ≠ [] := by
    rintro rfl
    exact absurd hlong (Nat.not_lt_zero _)
  have hdigit : ∀ d ∈ ds, isDigit d = true := fun d hd => isDigit_of_ascii (hds d hd)
  have hplain : ∀ d ∈ ds, isLineBreak d = false ∧ d ≠ ':' := by
    intro d hd
    have h := hds d hd
    simp only [isAsciiDigit, Bool.and_eq_true, decide_eq_true_eq] at h
    refine ⟨by simp [isLineBreak]; omega, ?_⟩
    rintro rfl
    exact absurd h.2 (by decide)
  have hlines : splitLines (ds ++ ':' :: r) = [ds ++ ':' :: r] := by
    apply splitLines_of_no_break (by simp)
    intro c hc
    simp only [List.mem_append, List.mem_cons] at hc
    rcases hc with hc | rfl | hc
    · exact (hplain c hc).1
    · decide
    · exact hr c hc
  have hbody : trimStart (ds ++ ':' :: r) = ds ++ ':' :: r := by
    cases ds with
    | nil => exact absurd rfl hne
    | cons d ds =>
      exact List.dropWhile_cons_of_neg (by simp [isBlank_of_ascii (hds d List.mem_cons_self)])
  have hentry : readEntry? ('1' :: ':' :: r) = some entry := by
    have hone : readAfterPath? (['1'] ++ ':' :: r) = none :=
      (readAfterPath?_append (by decide) _).trans hpath
    have hstart : trimStart ('1' :: ':' :: r) = ['1'] ++ ':' :: r := rfl
    unfold readLine? at hread
    dsimp only at hread
    rw [hstart, hone] at hread
    exact hread
  have hline : readLine? (ds ++ ':' :: r) = some { entry with line := ds } := by
    unfold readLine?
    dsimp only
    rw [hbody, readAfterPath?_append fun h => (hplain ':' h).2 rfl, hpath]
    exact readEntry?_digits hne hdigit hentry
  have hparse : parseDigits ds = .error (.tooLong ds.length) := by
    unfold parseDigits
    rw [if_pos hlong]
  unfold parse
  rw [String.toList_ofList, hlines, List.filterMap_cons, hline, List.filterMap_nil, List.mapM_cons]
  unfold Entry.finding
  rw [hparse]
  rfl
end Yamllint

/-! ## Reports -/

/-- The linter's output is refused for numbers with too many digits only. -/
def Linter.Counts (l : Linter) : Prop :=
  ∀ (stdout : String) (e : NumeralError), l.read stdout = .error e → Overlong stdout.toList e

theorem Linter.counts_ansible (executable : String) : (Linter.ansible executable).Counts :=
  fun _ _ h => AnsibleLint.parse_error h

theorem Linter.counts_yaml (executable : String) : (Linter.yaml executable).Counts :=
  fun _ _ h => Yamllint.parse_error h

/-- A linter that could not be run has a report nevertheless. -/
theorem Linter.Counts.report_error {l : Linter} (hl : l.Counts)
    {reply : Except ToolFailure ToolRun} {e : NumeralError} (h : l.report reply = .error e) :
    ∃ run, reply = .ok run ∧ Overlong run.stdout.toList e := by
  cases reply with
  | error failure => cases h
  | ok run => exact ⟨run, rfl, hl _ _ (except_map_error.1 h)⟩

end VarsAdvisor

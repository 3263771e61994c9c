import Mathlib.Data.List.Basic
import VarsAdvisor.Finding.AnsibleLint
import VarsAdvisor.Proofs.Except
import VarsAdvisor.Proofs.Text.Content
import VarsAdvisor.Proofs.Text.Spans

/-!
# Messages and their locators

The locator search looks for the first colon that a place follows. A line has a locator just if it
reads as a path, a colon and a place (`isSome_readLocator?_iff`), and it names this place unless the
path ends in a number of its own (`readLocator?_append`). A message line has a rule just if it reads
`rule: text` (`readRule?_eq_some_iff`).

So an output of blocks, each some message lines with a locator behind them, gives one finding for each
block, about its last message line (`parse_pairs`).
-/

namespace VarsAdvisor.AnsibleLint

open VarsAdvisor.Text

variable {cs front path rule text : List Char} {place : Locator}

/-! ## Places -/

namespace Locator

/-- The place as it is written, `line` or `line:column`. -/
def chars (place : Locator) : List Char :=
  match place.column with
  | none => place.line
  | some column => place.line ++ ':' :: column

/-- Line and column are numbers. -/
structure IsWritten (place : Locator) : Prop where
  line : IsNumber place.line
  column : ∀ ds ∈ place.column, IsNumber ds

/-- A written place has a colon just between its numbers. -/
theorem eq_of_append_eq_chars (hplace : place.IsWritten) (h : front ++ ':' :: cs = place.chars) :
    front = place.line ∧ place.column = some cs := by
  obtain ⟨line, column⟩ := place
  obtain ⟨hline, hcolumn⟩ := hplace
  cases column with
  | none =>
    have hmem : ':' ∈ front ++ ':' :: cs := List.mem_append_right front List.mem_cons_self
    rw [h] at hmem
    exact absurd hmem (colon_not_mem hline)
  | some column =>
    have hafter : ':' ∉ column := colon_not_mem (hcolumn column rfl)
    obtain ⟨hfront, -, hcs⟩ :=
      (List.append_cons_inj_of_notMem (colon_not_mem hline) hafter).1 h.symm
    exact ⟨hfront.symm, congrArg some hcs⟩

end Locator

theorem readPlace?_eq_some_iff : readPlace? cs = some place ↔ place.IsWritten ∧ cs = place.chars := by
  constructor
  · intro h
    obtain ⟨line, rest, rfl, hline, hrest⟩ := exists_span isDigit cs
    obtain ⟨htake, hdrop⟩ := span_append hline hrest
    unfold readPlace? at h
    dsimp only at h
    rw [htake, hdrop] at h
    split at h
    · cases h
    · next hne =>
      have hnumber : IsNumber line := ⟨by simpa using hne, hline⟩
      split at h
      · cases h
        exact ⟨⟨hnumber, by simp⟩, List.append_nil line⟩
      · next column =>
        split at h
        · next hcolumn =>
          cases h
          simp only [Bool.and_eq_true, Bool.not_eq_true', List.isEmpty_eq_false_iff,
            List.all_eq_true] at hcolumn
          exact ⟨⟨hnumber, fun _ hds => Option.mem_some.1 hds ▸ ⟨hcolumn.1, hcolumn.2⟩⟩, rfl⟩
        · cases h
      · cases h
  · obtain ⟨line, column⟩ := place
    rintro ⟨⟨hline, hcolumn⟩, rfl⟩
    have hne : line.isEmpty = false := by simpa using hline.ne_nil
    unfold Locator.chars readPlace?
    cases column with
    | none =>
      have hspan := @span_append isDigit line [] hline.chars (by simp)
      rw [List.append_nil] at hspan
      simp [hspan, hne]
    | some column =>
      obtain ⟨hcolumn, hdigits⟩ := hcolumn column rfl
      have hspan := @span_append isDigit line (':' :: column) hline.chars (by simp; decide)
      simpa [hspan, hne, hcolumn] using hdigits

/-! ## Locators -/

/-- A path is not empty and does not start with a blank. -/
def IsPath (path : List Char) : Prop :=
  ∃ c ∈ path.head?, isBlank c = false

/-- Behind its last colon a text is a number. -/
def EndsInNumber (cs : List Char) : Prop :=
  ∃ before ds, IsNumber ds ∧ cs = before ++ ':' :: ds

/-- A line that reads `path:line` or `path:line:column`. -/
def IsLocator (cs : List Char) : Prop :=
  ∃ path, ∃ place : Locator, IsPath path ∧ place.IsWritten ∧ cs = path ++ ':' :: place.chars

theorem EndsInNumber.cons (h : EndsInNumber cs) (c : Char) : EndsInNumber (c :: cs) := by
  obtain ⟨before, ds, hds, rfl⟩ := h
  exact ⟨c :: before, ds, hds, rfl⟩

theorem exists_of_readAfterPath? (h : readAfterPath? cs = some place) :
    place.IsWritten ∧ ∃ front, cs = front ++ ':' :: place.chars := by
  fun_induction readAfterPath? cs with
  | case1 => cases h
  | case2 r place' hplace =>
    cases h
    obtain ⟨hwritten, rfl⟩ := readPlace?_eq_some_iff.1 hplace
    exact ⟨hwritten, [], rfl⟩
  | case3 r hplace ih =>
    obtain ⟨hwritten, front, rfl⟩ := ih h
    exact ⟨hwritten, ':' :: front, rfl⟩
  | case4 c r hc ih =>
    obtain ⟨hwritten, front, rfl⟩ := ih h
    exact ⟨hwritten, c :: front, rfl⟩

theorem isSome_readAfterPath? (hplace : place.IsWritten) (front : List Char) :
    (readAfterPath? (front ++ ':' :: place.chars)).isSome = true := by
  induction front with
  | nil => simp [readAfterPath?, readPlace?_eq_some_iff.2 ⟨hplace, rfl⟩]
  | cons c r ih =>
    by_cases hc : c = ':'
    · subst hc
      rw [List.cons_append, readAfterPath?]
      split
      · rfl
      · exact ih
    · rwa [List.cons_append, readAfterPath?.eq_3 _ _ hc]

/-- A line has a locator just if it reads as one. -/
theorem isSome_readLocator?_iff : (readLocator? cs).isSome = true ↔ IsLocator cs := by
  constructor
  · intro h
    obtain ⟨place, hplace⟩ := Option.isSome_iff_exists.1 h
    cases cs with
    | nil => cases hplace
    | cons c r =>
      rw [readLocator?] at hplace
      split at hplace
      · cases hplace
      · next hc =>
        obtain ⟨hwritten, front, rfl⟩ := exists_of_readAfterPath? hplace
        exact ⟨c :: front, place, ⟨c, rfl, by simpa using hc⟩, hwritten, rfl⟩
  · rintro ⟨path, place, ⟨c, hc, hblank⟩, hwritten, rfl⟩
    cases path with
    | nil => cases hc
    | cons d r =>
      cases hc
      rw [List.cons_append, readLocator?, if_neg (by simp [hblank])]
      exact isSome_readAfterPath? hwritten r

instance (cs : List Char) : Decidable (IsLocator cs) :=
  decidable_of_iff _ isSome_readLocator?_iff

theorem readLocator?_eq_none (h : ¬ IsLocator cs) : readLocator? cs = none := by
  rwa [← isSome_readLocator?_iff, Option.not_isSome_iff_eq_none] at h

/-- The first colon that a place follows is the right one: a colon further on belongs to the place,
and one before it is followed by more than a place. -/
theorem readAfterPath?_append (hplace : place.IsWritten)
    (hfront : place.column = none → ¬ EndsInNumber front) :
    readAfterPath? (front ++ ':' :: place.chars) = some place := by
  induction front with
  | nil => simp [readAfterPath?, readPlace?_eq_some_iff.2 ⟨hplace, rfl⟩]
  | cons c r ih =>
    have hr : readAfterPath? (r ++ ':' :: place.chars) = some place :=
      ih fun hnone h => hfront hnone (h.cons c)
    by_cases hc : c = ':'
    · subst hc
      have hearly : readPlace? (r ++ ':' :: place.chars) = none := by
        rw [Option.eq_none_iff_forall_ne_some]
        intro place' h
        obtain ⟨hplace', heq⟩ := readPlace?_eq_some_iff.1 h
        obtain ⟨rfl, hcolumn⟩ := Locator.eq_of_append_eq_chars hplace' heq
        have hnumber : IsNumber place.chars := hplace'.column _ hcolumn
        cases hnone : place.column with
        | none => exact hfront hnone ⟨[], _, hplace'.line, rfl⟩
        | some column =>
          apply colon_not_mem hnumber
          simp [Locator.chars, hnone]
      rw [List.cons_append, readAfterPath?, hearly]
      exact hr
    · rwa [List.cons_append, readAfterPath?.eq_3 _ _ hc]

theorem readLocator?_append (hpath : IsPath path) (hplace : place.IsWritten)
    (hend : place.column = none → ¬ EndsInNumber path) :
    readLocator? (path ++ ':' :: place.chars) = some place := by
  obtain ⟨c, hc, hblank⟩ := hpath
  cases path with
  | nil => cases hc
  | cons d r =>
    cases hc
    rw [List.cons_append, readLocator?, if_neg (by simp [hblank])]
    exact readAfterPath?_append hplace fun hnone h => hend hnone (h.cons c)

/-! ## Rules -/

/-- The name of a rule, with or without a tag in brackets. -/
inductive IsRule : List Char → Prop
  | plain {name : List Char} (hname : IsRuleWord name) : IsRule name
  | tagged {name tag : List Char} (hname : IsRuleWord name) (htag : IsRuleWord tag) :
      IsRule (name ++ '[' :: (tag ++ [']']))

/-- A line that reads `rule: text`. -/
structure Ruled (line rule text : List Char) : Prop where
  isRule : IsRule rule
  shown : ∃ c ∈ text.head?, isBlank c = false
  written : ∃ gap, IsGap gap ∧ line = rule ++ ':' :: (gap ++ text)

theorem IsRule.takeWhile_ne_nil (h : IsRule rule) (rest : List Char) :
    (rule ++ rest).takeWhile isRuleChar ≠ [] := by
  have hword : ∀ {name : List Char}, IsRuleWord name → ∀ rest,
      (name ++ rest).takeWhile isRuleChar ≠ [] := by
    intro name hname rest
    obtain ⟨c, r, rfl⟩ := List.exists_cons_of_ne_nil hname.ne_nil
    rw [List.cons_append, List.takeWhile_cons_of_pos (hname.chars c List.mem_cons_self)]
    exact List.cons_ne_nil _ _
  cases h with
  | plain hname => exact hword hname rest
  | tagged hname htag =>
    rw [List.append_assoc]
    exact hword hname _

theorem spanRule_append (h : IsRule rule) (rest : List Char) :
    spanRule (rule ++ ':' :: rest) = (rule, ':' :: rest) := by
  cases h with
  | plain hname =>
    have hspan := @span_append isRuleChar rule (':' :: rest) hname.chars (by simp; decide)
    simp [spanRule, hspan]
  | @tagged name tag hname htag =>
    have hchars : name ++ '[' :: (tag ++ [']']) ++ ':' :: rest =
        name ++ '[' :: (tag ++ ']' :: ':' :: rest) := by simp
    have hspan := @span_append isRuleChar name ('[' :: (tag ++ ']' :: ':' :: rest)) hname.chars
      (by simp; decide)
    have htagged := @span_append isRuleChar tag (']' :: ':' :: rest) htag.chars (by simp; decide)
    have hne : tag.isEmpty = false := by simpa using htag.ne_nil
    rw [hchars]
    simp [spanRule, hspan, htagged, hne]

theorem isRule_spanRule (h : cs.takeWhile isRuleChar ≠ []) :
    IsRule (spanRule cs).1 ∧ cs = (spanRule cs).1 ++ (spanRule cs).2 := by
  obtain ⟨name, rest, rfl, hname, hrest⟩ := exists_span isRuleChar cs
  obtain ⟨htake, hdrop⟩ := span_append hname hrest
  rw [htake] at h
  unfold spanRule
  simp only [htake, hdrop]
  split
  · next r =>
    obtain ⟨tag, after, rfl, htag, hafter⟩ := exists_span isRuleChar r
    obtain ⟨htakeTag, hdropTag⟩ := span_append htag hafter
    rw [htakeTag, hdropTag]
    split
    · next hne =>
      have htagged : IsRule (name ++ '[' :: (tag ++ [']'])) :=
        .tagged ⟨h, hname⟩ ⟨by simpa using hne, htag⟩
      exact ⟨by simpa using htagged, by simp⟩
    · exact ⟨.plain ⟨h, hname⟩, rfl⟩
  · exact ⟨.plain ⟨h, hname⟩, rfl⟩

/-- A line has a rule just if it reads as one with a text behind it. -/
theorem readRule?_eq_some_iff : readRule? cs = some (rule, text) ↔ Ruled cs rule text := by
  constructor
  · intro h
    unfold readRule? at h
    dsimp only at h
    split at h
    · cases h
    · next hne =>
      obtain ⟨hrule, hcs⟩ := isRule_spanRule hne
      split at h
      · next c r hrest =>
        split at h
        · next hshown =>
          cases h
          rw [Bool.and_eq_true, Bool.not_eq_true', List.isEmpty_eq_false_iff] at hshown
          obtain ⟨gap, text, rfl, hgap, htext⟩ := exists_span isBlank r
          have htrim : trimStart (gap ++ text) = text := (span_append hgap htext).2
          rw [htrim] at hshown ⊢
          have hblanks : IsGap (c :: gap) :=
            ⟨List.cons_ne_nil c gap, List.forall_mem_cons.2 ⟨hshown.1, hgap⟩⟩
          refine ⟨hrule, ?_, c :: gap, hblanks, ?_⟩
          · obtain ⟨d, text, rfl⟩ := List.exists_cons_of_ne_nil hshown.2
            exact ⟨d, rfl, htext d rfl⟩
          · exact hcs.trans (congrArg _ hrest)
        · cases h
      · cases h
  · rintro ⟨hrule, ⟨c, hc, hblank⟩, gap, hgap, rfl⟩
    obtain ⟨b, gap, rfl, hb, hgap⟩ := hgap.exists_cons
    have hhead : ∀ d ∈ text.head?, isBlank d = false := by
      intro d hd
      rwa [Option.mem_unique hd hc]
    have hspan := span_append hgap hhead
    have hshown : text.isEmpty = false := by
      rw [List.isEmpty_eq_false_iff]
      rintro rfl
      cases hc
    unfold readRule?
    rw [spanRule_append hrule]
    dsimp only
    rw [if_neg (hrule.takeWhile_ne_nil _)]
    simp [trimStart, hspan, hb, hshown]

/-! ## Blocks -/

/-- A block of an output: message lines, of which none but the first reads as a locator, and the
locator behind them. -/
structure Block where
  first : String
  more : List String
  path : String
  place : Locator
  first_shown : isBlankText first = false
  more_shown : ∀ line ∈ more, isBlankText line = false
  more_plain : ∀ line ∈ more, ¬ IsLocator (trim line.toList)
  isPath : IsPath path.toList
  path_end : place.column = none → ¬ EndsInNumber path.toList
  line_decimal : IsDecimal place.line
  column_decimal : ∀ ds ∈ place.column, IsDecimal ds

namespace Block

/-- The locator as it is printed. -/
def locator (b : Block) : String :=
  b.path ++ ":" ++ String.ofList b.place.chars

/-- The lines of a block. -/
def lines (b : Block) : List String :=
  b.first :: (b.more ++ [b.locator])

/-- The last line before the locator, trimmed. -/
def message (b : Block) : List Char :=
  trim ((b.first :: b.more).getLast (List.cons_ne_nil _ _)).toList

/-- The finding is what a block says: it is about the place of the locator, and the message is split
if it reads `rule: text`. -/
structure Says (b : Block) (f : Finding) : Prop where
  tool : f.tool = "ansible-lint"
  line : f.line = Nat.ofDigitChars 10 b.place.line 0
  column : f.column = b.place.column.map (Nat.ofDigitChars 10 · 0)
  severity : f.severity = .error
  ruled : ∀ rule text, Ruled b.message rule text →
    f.rule = some (String.ofList rule) ∧ f.message = String.ofList text
  plain : (∀ rule text, ¬ Ruled b.message rule text) →
    f.rule = none ∧ f.message = String.ofList b.message

theorem isWritten_place (b : Block) : b.place.IsWritten :=
  ⟨b.line_decimal.isNumber, fun ds hds => (b.column_decimal ds hds).isNumber⟩

theorem trim_locator (b : Block) : trim b.locator.toList = b.path.toList ++ ':' :: b.place.chars := by
  have hchars : b.locator.toList = b.path.toList ++ ':' :: b.place.chars := by simp [locator]
  have hblank : ∀ c ∈ ':' :: b.place.chars, isBlank c = false := by
    have hline := b.line_decimal.ascii
    have hcolumn := fun ds hds => (b.column_decimal ds hds).ascii
    rw [List.forall_mem_cons]
    refine ⟨by decide, fun c hc => ?_⟩
    unfold Locator.chars at hc
    split at hc
    · exact isBlank_of_ascii (hline c hc)
    · next column hsome =>
      rcases List.mem_append.1 hc with hc | hc
      · exact isBlank_of_ascii (hline c hc)
      · rcases List.mem_cons.1 hc with rfl | hc
        · decide
        · exact isBlank_of_ascii (hcolumn column hsome c hc)
  rw [hchars]
  apply trim_of_tight
  refine ⟨?_, ?_⟩
  · obtain ⟨c, hc, hpath⟩ := b.isPath
    intro d hd
    rw [List.head?_append, hc] at hd
    exact Option.mem_some.1 hd ▸ hpath
  · intro c hc
    rw [List.getLast?_append_cons] at hc
    exact hblank c (List.mem_of_getLast? hc)

theorem exists_says (b : Block) : ∃ f, finding b.message b.place = .ok f ∧ b.Says f := by
  have hcolumn : b.place.column.mapM parseDigits =
      .ok (b.place.column.map (Nat.ofDigitChars 10 · 0)) := by
    have hdecimal := b.column_decimal
    cases hsome : b.place.column with
    | none => rfl
    | some column =>
      rw [hsome] at hdecimal
      simp [(hdecimal column rfl).parseDigits_eq]
  unfold finding
  rw [b.line_decimal.parseDigits_eq, hcolumn]
  refine ⟨_, rfl, rfl, rfl, rfl, rfl, ?_, ?_⟩
  · intro rule text h
    rw [readRule?_eq_some_iff.2 h]
    exact ⟨rfl, rfl⟩
  · intro h
    have hnone : readRule? b.message = none := by
      rw [Option.eq_none_iff_forall_ne_some]
      exact fun (rule, text) hsome => h rule text (readRule?_eq_some_iff.1 hsome)
    rw [hnone]
    exact ⟨rfl, rfl⟩

end Block

/-! ## Lines -/

variable {waiting : Option (List Char)} {lines : List (List Char)} {line message : List Char}

theorem readLines_blank (h : trim line = []) (rest : List (List Char)) :
    readLines waiting (line :: rest) = readLines waiting rest := by
  simp [readLines, h]

theorem readLines_message (hshown : trim line ≠ [])
    (h : waiting = none ∨ readLocator? (trim line) = none) (rest : List (List Char)) :
    readLines waiting (line :: rest) = readLines (some (trim line)) rest := by
  rcases h with rfl | hnone
  · simp [readLines, hshown]
  · simp [readLines, hshown, hnone]

theorem readLines_locator {f : Finding} (h : readLocator? (trim line) = some place)
    (hf : finding message place = .ok f) (rest : List (List Char)) :
    readLines (some message) (line :: rest) = (readLines none rest).map (f :: ·) := by
  have hshown : trim line ≠ [] := by
    intro hnil
    rw [hnil] at h
    cases h
  simp only [readLines, h, hf, except_ok_bind]
  rw [if_neg (by simpa using hshown)]
  cases readLines none rest <;> rfl

/-- The findings depend on what the lines show only. -/
theorem readLines_content (waiting : Option (List Char)) (lines : List (List Char)) :
    readLines waiting (content lines) = readLines waiting lines := by
  induction lines generalizing waiting with
  | nil => rfl
  | cons line rest ih =>
    have htrim : trim (trim line) = trim line := trim_of_tight (isTight_trim line)
    rw [content_cons]
    by_cases hshown : trim line = []
    · rw [readLines_blank hshown, ← ih]
      simp [content, hshown]
    · have hcontent : content [line] = [trim line] := by simp [content, hshown]
      rw [hcontent, List.singleton_append]
      simp only [readLines, htrim, ih]

/-- Without locators there are no findings. -/
theorem readLines_of_plain (h : ∀ line ∈ lines, ¬ IsLocator (trim line)) :
    readLines waiting lines = .ok [] := by
  induction lines generalizing waiting with
  | nil => rfl
  | cons line rest ih =>
    rw [List.forall_mem_cons] at h
    by_cases hshown : trim line = []
    · rw [readLines_blank hshown, ih h.2]
    · rw [readLines_message hshown (.inr (readLocator?_eq_none h.1)), ih h.2]

/-- At the end of an output one more line is a message, whatever it looks like. -/
theorem readLines_trailing (h : ∀ line ∈ lines.tail, ¬ IsLocator (trim line)) :
    readLines none lines = .ok [] := by
  cases lines with
  | nil => rfl
  | cons line rest =>
    by_cases hshown : trim line = []
    · rw [readLines_blank hshown]
      exact readLines_of_plain h
    · rw [readLines_message hshown (.inl rfl)]
      exact readLines_of_plain h

theorem trim_ne_nil {s : String} (h : isBlankText s = false) : trim s.toList ≠ [] := by
  intro hnil
  rw [isBlankText, ← all_isBlank_trim, hnil] at h
  cases h

/-- Of several message lines in a row the last one is kept. -/
theorem readLines_more {first : String} {more : List String}
    (hshown : ∀ line ∈ more, isBlankText line = false)
    (hplain : ∀ line ∈ more, ¬ IsLocator (trim line.toList)) (rest : List (List Char)) :
    readLines (some (trim first.toList)) (more.map String.toList ++ rest) =
      readLines (some (trim ((first :: more).getLast (List.cons_ne_nil _ _)).toList)) rest := by
  induction more generalizing first with
  | nil => rfl
  | cons line more ih =>
    rw [List.forall_mem_cons] at hshown hplain
    rw [List.map_cons, List.cons_append,
      readLines_message (trim_ne_nil hshown.1) (.inr (readLocator?_eq_none hplain.1)),
      ih hshown.2 hplain.2, List.getLast_cons_cons]

theorem Block.readLines_lines (b : Block) {f : Finding} (hf : finding b.message b.place = .ok f)
    (rest : List (List Char)) :
    readLines none (b.lines.map String.toList ++ rest) = (readLines none rest).map (f :: ·) := by
  have hlocator : readLocator? (trim b.locator.toList) = some b.place := by
    rw [b.trim_locator]
    exact readLocator?_append b.isPath b.isWritten_place b.path_end
  have hlines : b.lines.map String.toList ++ rest =
      b.first.toList :: (b.more.map String.toList ++ b.locator.toList :: rest) := by
    simp [Block.lines]
  rw [hlines, readLines_message (trim_ne_nil b.first_shown) (.inl rfl),
    readLines_more b.more_shown b.more_plain]
  exact readLines_locator hlocator hf rest

theorem readLines_blocks (blocks : List Block) {rest : List (List Char)}
    (h : readLines none rest = .ok []) :
    ∃ findings, readLines none ((blocks.flatMap Block.lines).map String.toList ++ rest) =
      .ok findings ∧ List.Forall₂ Block.Says blocks findings := by
  induction blocks with
  | nil => exact ⟨[], h, .nil⟩
  | cons b blocks ih =>
    obtain ⟨f, hf, hsays⟩ := b.exists_says
    obtain ⟨findings, hfindings, hall⟩ := ih
    refine ⟨f :: findings, ?_, .cons hsays hall⟩
    rw [List.flatMap_cons, List.map_append, List.append_assoc, b.readLines_lines hf, hfindings]
    rfl

/-- **Messages are paired with their locators.** An output of blocks, however it is laid out, with
lines behind the last block of which none but the first reads as a locator, gives one finding for each
block, in their order, and this finding is what the block says. -/
theorem parse_pairs (blocks : List Block) (trailing : List String) (stdout : String)
    (htrailing : ∀ line ∈ trailing.tail, ¬ IsLocator (trim line.toList))
    (h : Prints (blocks.flatMap Block.lines ++ trailing) stdout.toList) :
    ∃ findings, parse stdout = .ok findings ∧ List.Forall₂ Block.Says blocks findings := by
  have hrest : readLines none (trailing.map String.toList) = .ok [] := by
    apply readLines_trailing
    rw [← List.map_tail, List.forall_mem_map]
    exact htrailing
  obtain ⟨findings, hfindings, hall⟩ := readLines_blocks blocks hrest
  refine ⟨findings, ?_, hall⟩
  rw [parse, ← readLines_content, content_of_prints h, readLines_content, List.map_append, hfindings]

/-- A message that looks like a locator, and one with a rule behind a line of a summary. -/
def siteBlocks : List Block :=
  [{ first := "b.yml:9"
     more := []
     path := "site vars.yml"
     place := ⟨['0', '4'], none⟩
     first_shown := by decide
     more_shown := by decide
     more_plain := by decide
     isPath := ⟨'s', rfl, by decide⟩
     path_end := by
       rintro - ⟨before, ds, -, hcs⟩
       have hcolon : ':' ∈ before ++ ':' :: ds := List.mem_append_right _ List.mem_cons_self
       exact absurd (hcs ▸ hcolon) (by decide)
     line_decimal := by decide
     column_decimal := by decide },
   { first := "Failed: 1 failure(s)"
     more := ["yaml[truthy]:  Truthy value: true"]
     path := "a:5"
     place := ⟨['7'], some ['1', '2']⟩
     first_shown := by decide
     more_shown := by decide
     more_plain := by decide
     isPath := ⟨'a', rfl, by decide⟩
     path_end := by rintro ⟨⟩
     line_decimal := by decide
     column_decimal := by decide }]

theorem parse_pairs_of_two :
    let trailing := ["c.yml:1", "Done."]
    let stdout := "b.yml:9\n  site vars.yml:04\r\n\nFailed: 1 failure(s)\n" ++
      "yaml[truthy]:  Truthy value: true \u2028a:5:7:12\nc.yml:1\nDone.\n"
    (∀ line ∈ trailing.tail, ¬ IsLocator (trim line.toList)) ∧
      Prints (siteBlocks.flatMap Block.lines ++ trailing) stdout.toList ∧
      ∃ findings, parse stdout = .ok findings ∧ List.Forall₂ Block.Says siteBlocks findings ∧
        findings.map (fun f => (f.line, f.column, f.rule, f.message)) =
          [(4, none, none, .ofString "b.yml:9"),
            (7, some 12, some "yaml[truthy]", .ofString "Truthy value: true")] := by
  intro trailing stdout
  have htrailing : ∀ line ∈ trailing.tail, ¬ IsLocator (trim line.toList) := by decide
  have hnone : ∀ c ∈ ([] : List Char), isBlank c = true := List.forall_mem_nil _
  have hspace : ∀ c ∈ [' '], isBlank c = true := List.all_eq_true.1 rfl
  have hspaces : ∀ c ∈ [' ', ' '], isBlank c = true := List.all_eq_true.1 rfl
  have hfeed : ∀ c ∈ ['\n'], isBlank c = true := List.all_eq_true.1 rfl
  have hreturn : ∀ c ∈ ['\r'], isBlank c = true := List.all_eq_true.1 rfl
  have hdone := @Prints.last "Done." _ _ hnone (by decide) hfeed
  have hlast := @Prints.more "c.yml:1" _ _ _ _ '\n' hnone (by decide) hnone (by decide) hdone
  have hplace := @Prints.more "a:5:7:12" _ _ _ _ '\n' hnone (by decide) hnone (by decide) hlast
  have hruled := @Prints.more "yaml[truthy]:  Truthy value: true" _ _ _ _ '\u2028'
    hnone (by decide) hspace (by decide) hplace
  have hfailed := @Prints.more "Failed: 1 failure(s)" _ _ _ _ '\n'
    hfeed (by decide) hnone (by decide) hruled
  have hsite := @Prints.more "site vars.yml:04" _ _ _ _ '\n'
    hspaces (by decide) hreturn (by decide) hfailed
  have hfirst := @Prints.more "b.yml:9" _ _ _ _ '\n' hnone (by decide) hnone (by decide) hsite
  have hprints : Prints (siteBlocks.flatMap Block.lines ++ trailing) stdout.toList := by
    convert hfirst using 1
    · decide +kernel
    · rw [String.toList_append]
      decide +kernel
  obtain ⟨findings, hparse, hall⟩ := parse_pairs siteBlocks trailing stdout htrailing hprints
  refine ⟨htrailing, hprints, findings, hparse, hall, ?_⟩
  have hplain : ∀ rule text, ¬ Ruled "b.yml:9".toList rule text := by
    intro rule text h
    have hsome := readRule?_eq_some_iff.2 h
    have hread : readRule? "b.yml:9".toList = none := by decide
    rw [hread] at hsome
    cases hsome
  have htagged : Ruled "yaml[truthy]:  Truthy value: true".toList "yaml[truthy]".toList
      "Truthy value: true".toList := readRule?_eq_some_iff.1 (by decide)
  cases hall with
  | cons hmessage hall =>
    cases hall with
    | cons hsummary hall =>
      cases hall
      obtain ⟨hmessageRule, hmessageText⟩ := hmessage.plain hplain
      obtain ⟨hsummaryRule, hsummaryText⟩ := hsummary.ruled _ _ htagged
      simp only [List.map_cons, List.map_nil, hmessage.line, hmessage.column, hmessageRule,
        hmessageText, hsummary.line, hsummary.column, hsummaryRule, hsummaryText]
      decide

end VarsAdvisor.AnsibleLint

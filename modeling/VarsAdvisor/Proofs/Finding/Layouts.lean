import Mathlib.Data.List.Chain
import VarsAdvisor.Proofs.Finding.Numbers
import VarsAdvisor.Proofs.Text.Joined
import VarsAdvisor.Proofs.Text.Spans
import VarsAdvisor.Proofs.Text.Trim

/-!
# Layouts of findings

A remark can be printed in columns, behind a path, or with neither. In each layout the entry reader
finds the place, the level, the message and the rule that were printed (`readLine?_print`): no colon
of the remark but that of the place is followed by a digit, and the message ends where nothing but a
rule and blanks follow (`splitMessage_append`). So an output of remarks, in any layouts and among lines
without colons, is read as these remarks in their order (`parse_remarks`).
-/

namespace VarsAdvisor.Yamllint

open VarsAdvisor.Text

variable {cs rest gap word message : List Char}

/-! ## Rules at the end -/

theorem skipBlanks?_eq_some_iff : skipBlanks? cs = some rest ↔
    (∀ c ∈ rest.head?, isBlank c = false) ∧ ∃ gap, IsGap gap ∧ cs = gap ++ rest := by
  constructor
  · intro h
    cases cs with
    | nil => cases h
    | cons c r =>
      obtain ⟨gap, after, rfl, hgap, hafter⟩ := exists_span isBlank r
      have htrim : trimStart (gap ++ after) = after := (span_append hgap hafter).2
      rw [skipBlanks?, htrim] at h
      split at h
      · next hc =>
        cases h
        exact ⟨hafter, c :: gap,
          ⟨List.cons_ne_nil c gap, List.forall_mem_cons.2 ⟨hc, hgap⟩⟩, rfl⟩
      · cases h
  · rintro ⟨hrest, gap, hgap, rfl⟩
    obtain ⟨c, r, rfl, hc, hr⟩ := hgap.exists_cons
    have htrim : trimStart (r ++ rest) = rest := (span_append hr hrest).2
    rw [List.cons_append, skipBlanks?, htrim, if_pos hc]

/-- A rule in parentheses between blanks. -/
theorem readRule?_eq_some_iff : readRule? cs = some word ↔ IsRuleWord word ∧
    ∃ gap after, IsGap gap ∧ (∀ c ∈ after, isBlank c = true) ∧
      cs = gap ++ '(' :: (word ++ ')' :: after) := by
  constructor
  · intro h
    unfold readRule? at h
    split at h
    · next r hskip =>
      obtain ⟨-, gap, hgap, rfl⟩ := skipBlanks?_eq_some_iff.1 hskip
      obtain ⟨run, back, rfl, hrun, hback⟩ := exists_span isRuleChar r
      obtain ⟨htake, hdrop⟩ := span_append hrun hback
      rw [htake, hdrop] at h
      split at h
      · cases h
      · next hne =>
        split at h
        · next hafter =>
          cases h
          exact ⟨⟨hne, hrun⟩, gap, _, hgap, List.all_eq_true.1 hafter, rfl⟩
        · cases h
      · cases h
    · cases h
  · rintro ⟨hword, gap, after, hgap, hafter, rfl⟩
    have hopen : ∀ c ∈ ('(' :: (word ++ ')' :: after)).head?, isBlank c = false := by
      rintro c ⟨⟩
      decide
    have hclose : ∀ c ∈ (')' :: after).head?, isRuleChar c = false := by
      rintro c ⟨⟩
      decide
    have hspan := span_append hword.chars hclose
    unfold readRule?
    rw [skipBlanks?_eq_some_iff.2 ⟨hopen, gap, hgap, rfl⟩]
    simpa [hspan, hword.ne_nil] using hafter

/-- A text that ends in blanks and a word in parentheses. -/
def EndsInRule (cs : List Char) : Prop :=
  ∃ before gap word, IsGap gap ∧ IsRuleWord word ∧ cs = before ++ (gap ++ '(' :: (word ++ [')']))

theorem EndsInRule.cons (h : EndsInRule cs) (c : Char) : EndsInRule (c :: cs) := by
  obtain ⟨before, gap, word, hgap, hword, rfl⟩ := h
  exact ⟨c :: before, gap, word, hgap, hword, rfl⟩

/-- What is printed of a rule behind a message. -/
def ruleText (gap : List Char) : Option String → List Char
  | none => []
  | some rule => gap ++ '(' :: (rule.toList ++ [')'])

theorem exists_shown (hne : cs ≠ []) (hlast : ∀ c ∈ cs.getLast?, isBlank c = false) :
    ∃ c ∈ cs, isBlank c = false :=
  ⟨cs.getLast hne, List.getLast_mem hne, hlast _ (List.getLast?_eq_getLast_of_ne_nil hne)⟩

/-- In front of a message no rule is read: blanks and one word in parentheses are not all of it. -/
theorem readRule?_of_message {rule : Option String} (hne : message ≠ [])
    (hlast : ∀ c ∈ message.getLast?, isBlank c = false)
    (hrule : ∀ r ∈ rule, IsRuleWord r.toList) (hnone : rule = none → ¬ EndsInRule message) :
    readRule? (message ++ ruleText gap rule) = none := by
  obtain ⟨shown, hmem, hshown⟩ := exists_shown hne hlast
  rw [Option.eq_none_iff_forall_ne_some]
  intro word h
  obtain ⟨hword, front, after, hfront, hafter, heq⟩ := readRule?_eq_some_iff.1 h
  cases rule with
  | none =>
    have hmessage : message = front ++ '(' :: (word ++ ')' :: after) := by simpa [ruleText] using heq
    rcases List.eq_nil_or_concat after with rfl | ⟨back, c, rfl⟩
    · exact hnone rfl ⟨[], front, word, hfront, hword, hmessage⟩
    · have hend : message = front ++ '(' :: (word ++ ')' :: back) ++ [c] := by simp [hmessage]
      have hc : isBlank c = false := hlast c (by rw [hend]; exact List.getLast?_concat)
      rw [hafter c (by simp)] at hc
      cases hc
  | some rule =>
    have hopen : '(' ∉ front := hfront.not_mem (by decide)
    have hclose : '(' ∉ word ++ ')' :: after := by
      simp only [List.mem_append, List.mem_cons, not_or]
      exact ⟨hword.not_mem (by decide), by decide,
        fun hmem => absurd (hafter _ hmem) (by decide)⟩
    have hsplit : front ++ '(' :: (word ++ ')' :: after) =
        (message ++ gap) ++ '(' :: (rule.toList ++ [')']) := by
      rw [← heq, ruleText, List.append_assoc]
    obtain ⟨rfl, -, -⟩ := (List.append_cons_inj_of_notMem hopen hclose).1 hsplit
    rw [hfront.chars _ (List.mem_append_left gap hmem)] at hshown
    cases hshown

/-- A message ends where its rule, or nothing, follows. -/
theorem splitMessage_append {rule : Option String} (hgap : IsGap gap)
    (hlast : ∀ c ∈ message.getLast?, isBlank c = false)
    (hrule : ∀ r ∈ rule, IsRuleWord r.toList) (hnone : rule = none → ¬ EndsInRule message) :
    splitMessage (message ++ ruleText gap rule) = (message, rule.map String.toList) := by
  induction message with
  | nil =>
    cases rule with
    | none => rfl
    | some rule =>
      have hread : readRule? (ruleText gap (some rule)) = some rule.toList := by
        rw [readRule?_eq_some_iff]
        exact ⟨hrule rule rfl, gap, [], hgap, by simp, rfl⟩
      rw [List.nil_append, splitMessage.eq_def, hread]
      rfl
  | cons c r ih =>
    have hread := @readRule?_of_message gap (c :: r) rule (List.cons_ne_nil c r) hlast hrule hnone
    have hshown : (c :: r ++ ruleText gap rule).all isBlank = false := by
      obtain ⟨d, hmem, hd⟩ := exists_shown (List.cons_ne_nil c r) hlast
      rw [List.all_eq_false]
      exact ⟨d, List.mem_append_left _ hmem, by simp [hd]⟩
    have hrest : splitMessage (r ++ ruleText gap rule) = (r, rule.map String.toList) := by
      apply ih
      · intro d hd
        apply hlast
        rw [List.getLast?_cons, Option.mem_def.1 hd]
        rfl
      · exact fun hnil h => hnone hnil (h.cons c)
    rw [List.cons_append] at hread hshown ⊢
    rw [splitMessage.eq_def, hread, hshown]
    simp [hrest]

/-! ## Remarks -/

/-- No colon of the text has a digit right behind it. -/
def NoPlace (cs : List Char) : Prop :=
  cs.IsChain fun c d => c = ':' → isDigit d = false

instance (cs : List Char) : Decidable (NoPlace cs) :=
  inferInstanceAs (Decidable (cs.IsChain _))

/-- What can be printed in every layout: its message is tight, shows no place, and does not end like
a rule if there is none. -/
structure Remark where
  line : List Char
  column : List Char
  severity : Severity
  message : String
  rule : Option String
  line_decimal : IsDecimal line
  column_decimal : IsDecimal column
  message_ne : message.toList ≠ []
  message_tight : IsTight message.toList
  message_plain : NoPlace message.toList
  rule_word : ∀ name ∈ rule, IsRuleWord name.toList
  rule_end : rule = none → ¬ EndsInRule message.toList

namespace Remark

/-- The remark as a finding. -/
def finding (r : Remark) : Finding :=
  ⟨"yamllint", Nat.ofDigitChars 10 r.line 0, some (Nat.ofDigitChars 10 r.column 0), r.severity,
    r.message, r.rule⟩

/-- The remark as an entry, with its numbers as digits. -/
def entry (r : Remark) : Entry :=
  ⟨r.line, r.column, r.severity, r.message.toList, r.rule.map String.toList⟩

/-- The remark from its line number on: `mark` stands behind the column, and the other texts around
the level and before the rule. -/
def written (r : Remark) (mark afterPlace level afterLevel beforeRule : List Char) : List Char :=
  r.line ++ ':' :: (r.column ++ (mark ++ (afterPlace ++ (level ++ (afterLevel ++
    (r.message.toList ++ ruleText beforeRule r.rule))))))

/-- The remark as `line:column: [level] message (rule)`. -/
def bracketed (r : Remark) : List Char :=
  r.written [':'] [' '] ('[' :: (r.severity.name.toList ++ [']'])) [' '] [' ']

end Remark

section Written

variable (r : Remark) {mark afterPlace level afterLevel beforeRule : List Char}
  (hmark : mark = [] ∨ mark = [':']) (hplace : IsGap afterPlace)
  (hlevel : level = r.severity.name.toList ∨ level = '[' :: (r.severity.name.toList ++ [']']))
  (hafter : IsGap afterLevel) (hrule : IsGap beforeRule)

include hmark hplace in
theorem head?_afterColumn (rest : List Char) :
    ∀ c ∈ (mark ++ (afterPlace ++ rest)).head?, isDigit c = false := by
  obtain ⟨b, gap, rfl, hb, -⟩ := hplace.exists_cons
  rcases hmark with rfl | rfl
  · rintro c ⟨⟩
    exact isDigit_of_blank hb
  · rintro c ⟨⟩
    decide

theorem dropMark_gap {c : Char} (hc : isBlank c = false) (hgap : IsGap gap) (rest : List Char) :
    dropMark c (gap ++ rest) = gap ++ rest := by
  obtain ⟨b, r, rfl, hb, -⟩ := hgap.exists_cons
  have hne : b ≠ c := by
    rintro rfl
    rw [hc] at hb
    cases hb
  rw [List.cons_append, dropMark, if_neg hne]

include hmark hplace in
theorem dropMark_afterColumn (rest : List Char) :
    dropMark ':' (mark ++ (afterPlace ++ rest)) = afterPlace ++ rest := by
  rcases hmark with rfl | rfl
  · exact dropMark_gap (by decide) hplace rest
  · rfl

include hlevel hafter in
theorem readLevel?_level (rest : List Char) : ∃ back,
    readLevel? (dropMark '[' (level ++ (afterLevel ++ rest))) = some (r.severity, back) ∧
      dropMark ']' back = afterLevel ++ rest := by
  have hgap := @dropMark_gap afterLevel ']' (by decide) hafter rest
  rcases hlevel with rfl | rfl
  · refine ⟨afterLevel ++ rest, ?_, hgap⟩
    cases r.severity <;> rfl
  · refine ⟨']' :: (afterLevel ++ rest), ?_, rfl⟩
    cases r.severity <;> simp [dropMark, readLevel?, Severity.name]

include hlevel in
theorem head?_level (rest : List Char) : ∀ c ∈ (level ++ rest).head?, isBlank c = false := by
  rcases hlevel with rfl | rfl
  · cases r.severity <;> rintro c ⟨⟩ <;> decide
  · rintro c ⟨⟩
    decide

theorem Remark.head?_message (rest : List Char) :
    ∀ c ∈ (r.message.toList ++ rest).head?, isBlank c = false := by
  have hfirst := r.message_tight.first
  obtain ⟨c, cs, hcs⟩ := List.exists_cons_of_ne_nil r.message_ne
  rw [hcs] at hfirst ⊢
  exact hfirst

include hmark hplace hlevel hafter hrule in
/-- From its line number on, a remark is read. -/
theorem readEntry?_written :
    readEntry? (r.written mark afterPlace level afterLevel beforeRule) = some r.entry := by
  have hnumber := fun rest => readNumber?_digits r.line_decimal.ne_nil
    r.line_decimal.isNumber.chars rest
  have hcolumn := fun rest => span_append r.column_decimal.isNumber.chars
    (head?_afterColumn hmark hplace rest)
  have hne : r.column.isEmpty = false := by simpa using r.column_decimal.ne_nil
  have hskip := fun rest => skipBlanks?_eq_some_iff.2
    ⟨head?_level r hlevel rest, afterPlace, hplace, rfl⟩
  have hbody := skipBlanks?_eq_some_iff.2
    ⟨r.head?_message (ruleText beforeRule r.rule), afterLevel, hafter, rfl⟩
  obtain ⟨back, hread, hback⟩ := readLevel?_level r hlevel hafter
    (r.message.toList ++ ruleText beforeRule r.rule)
  have hsplit := splitMessage_append hrule r.message_tight.last r.rule_word r.rule_end
  unfold Remark.written readEntry?
  rw [hnumber]
  simp only [Option.bind_eq_bind, Option.bind_some, (hcolumn _).1, (hcolumn _).2, hne,
    dropMark_afterColumn hmark hplace, hskip, hread, hback, hbody, hsplit]
  rfl

/-! ## Before the line number -/

theorem readEntry?_of_head (h : ∀ c ∈ cs.head?, isDigit c = false) : readEntry? cs = none := by
  have hspan := @span_append isDigit [] cs (List.forall_mem_nil _) h
  rw [List.nil_append] at hspan
  unfold readEntry? readNumber?
  rw [hspan.1]
  rfl

include hmark hplace in
/-- The column is not the line number of another entry. -/
theorem readEntry?_column (rest : List Char) :
    readEntry? (r.column ++ (mark ++ (afterPlace ++ rest))) = none := by
  obtain ⟨b, gap, rfl, hb, hgap⟩ := hplace.exists_cons
  have hblank := isDigit_of_blank hb
  rcases hmark with rfl | rfl
  · have hspan := @span_append isDigit r.column (b :: gap ++ rest)
      r.column_decimal.isNumber.chars (by rintro c ⟨⟩; exact hblank)
    have hcolon : b ≠ ':' := by
      rintro rfl
      cases hb
    have hnumber : readNumber? (r.column ++ (b :: gap ++ rest)) = none := by
      unfold readNumber?
      rw [hspan.1, hspan.2]
      split <;> simp_all
    unfold readEntry?
    rw [List.nil_append, hnumber]
    rfl
  · have hnumber := readNumber?_digits r.column_decimal.ne_nil r.column_decimal.isNumber.chars
      (b :: gap ++ rest)
    unfold readEntry?
    rw [List.singleton_append, hnumber]
    simp [hblank]

/-- No entry is read in a message. -/
theorem readAfterPath?_message (hmessage : NoPlace message)
    (hhead : ∀ c ∈ rest.head?, isDigit c = false) (hrest : readAfterPath? rest = none) :
    readAfterPath? (message ++ rest) = none := by
  induction message with
  | nil => exact hrest
  | cons c cs ih =>
    have hcs : readAfterPath? (cs ++ rest) = none := ih hmessage.tail
    by_cases hc : c = ':'
    · subst hc
      have hnext : ∀ d ∈ (cs ++ rest).head?, isDigit d = false := by
        cases cs with
        | nil => exact hhead
        | cons d cs =>
          rintro e ⟨⟩
          exact hmessage.rel rfl
      rw [List.cons_append, readAfterPath?, readEntry?_of_head hnext]
      exact hcs
    · rwa [List.cons_append, readAfterPath?.eq_3 _ _ hc]

include hmark hplace hlevel hafter hrule in
/-- A remark from its line number on does not read as one behind a path. -/
theorem readAfterPath?_written :
    readAfterPath? (r.written mark afterPlace level afterLevel beforeRule) = none := by
  have hgap : ∀ {gap : List Char}, IsGap gap → ':' ∉ gap := fun h => h.not_mem (by decide)
  have hname : ':' ∉ level := by
    rcases hlevel with rfl | rfl <;> cases r.severity <;> decide
  have hruleText : ':' ∉ ruleText beforeRule r.rule := by
    have hword := r.rule_word
    cases hsome : r.rule with
    | none => exact List.not_mem_nil
    | some name =>
      rw [hsome] at hword
      simp only [ruleText, List.mem_append, List.mem_cons, not_or]
      exact ⟨hgap hrule, by decide, (hword name rfl).not_mem (by decide), by decide, by decide⟩
  have htail : readAfterPath? (ruleText beforeRule r.rule) = none := by
    have hskip := readAfterPath?_append hruleText []
    rwa [List.append_nil] at hskip
  have hhead : ∀ c ∈ (ruleText beforeRule r.rule).head?, isDigit c = false := by
    obtain ⟨b, gap, rfl, hb, -⟩ := hrule.exists_cons
    intro c hc
    cases hsome : r.rule with
    | none =>
      rw [hsome] at hc
      cases hc
    | some name =>
      rw [hsome] at hc
      cases hc
      exact isDigit_of_blank hb
  have hbody : readAfterPath? (afterPlace ++ (level ++ (afterLevel ++
      (r.message.toList ++ ruleText beforeRule r.rule)))) = none := by
    rw [readAfterPath?_append (hgap hplace), readAfterPath?_append hname,
      readAfterPath?_append (hgap hafter)]
    exact readAfterPath?_message r.message_plain hhead htail
  unfold Remark.written
  rw [readAfterPath?_append (colon_not_mem r.line_decimal.isNumber), readAfterPath?,
    readEntry?_column r hmark hplace]
  dsimp only
  rw [readAfterPath?_append (colon_not_mem r.column_decimal.isNumber)]
  have hblank : ∀ rest, readEntry? (afterPlace ++ rest) = none := fun rest =>
    readEntry?_of_head (head?_afterColumn (.inl rfl) hplace rest)
  rcases hmark with rfl | rfl
  · exact hbody
  · rw [List.singleton_append, readAfterPath?, hblank]
    exact hbody

include hmark hplace hlevel hafter hrule in
/-- Behind blanks, or behind a path, a remark is read as it was printed. -/
theorem readLine?_written {indent path : List Char} (hindent : ∀ c ∈ indent, isBlank c = true)
    (hpath : ':' ∉ path) :
    readLine? (indent ++ r.written mark afterPlace level afterLevel beforeRule) = some r.entry ∧
      readLine? (path ++ ':' :: r.written mark afterPlace level afterLevel beforeRule) =
        some r.entry := by
  have hentry := readEntry?_written r hmark hplace hlevel hafter hrule
  constructor
  · have hbody := readAfterPath?_written r hmark hplace hlevel hafter hrule
    have hdigit : ∀ c ∈ (r.written mark afterPlace level afterLevel beforeRule).head?,
        isBlank c = false := by
      obtain ⟨d, ds, hds⟩ := List.exists_cons_of_ne_nil r.line_decimal.ne_nil
      have hd := r.line_decimal.ascii d (by rw [hds]; exact List.mem_cons_self)
      unfold Remark.written
      rw [hds]
      rintro c ⟨⟩
      exact isBlank_of_ascii hd
    have htrim := (span_append hindent hdigit).2
    unfold readLine? trimStart
    rw [htrim]
    dsimp only
    rw [hbody, hentry]
  · have htrim := @dropWhile_append_of_head isBlank
      (':' :: r.written mark afterPlace level afterLevel beforeRule) (List.cons_ne_nil _ _)
      (by rintro c ⟨⟩; decide) path
    have hrest : ':' ∉ path.dropWhile isBlank := fun h =>
      hpath ((List.dropWhile_suffix isBlank).subset h)
    unfold readLine? trimStart
    rw [htrim]
    dsimp only
    rw [readAfterPath?_append hrest, readAfterPath?, hentry]

end Written

/-! ## Layouts -/

/-- How a remark is printed: in columns with any blanks between them, behind a path, or by itself. -/
inductive Layout where
  | standard (indent afterPlace afterLevel beforeRule : List Char)
      (hindent : ∀ c ∈ indent, isBlank c = true) (hplace : IsGap afterPlace)
      (hlevel : IsGap afterLevel) (hrule : IsGap beforeRule)
  | parsable (path : String) (hpath : ':' ∉ path.toList)
  | inline

/-- The line on which a remark is printed. -/
def Layout.print : Layout → Remark → List Char
  | .standard indent afterPlace afterLevel beforeRule .., r =>
    indent ++ r.written [] afterPlace r.severity.name.toList afterLevel beforeRule
  | .parsable path _, r => path.toList ++ ':' :: r.bracketed
  | .inline, r => r.bracketed

theorem isGap_space : IsGap [' '] := by
  decide

theorem readLine?_print (layout : Layout) (r : Remark) :
    readLine? (layout.print r) = some r.entry := by
  have hbracketed := @readLine?_written r [':'] [' '] _ [' '] [' '] (.inr rfl) isGap_space
    (.inr rfl) isGap_space isGap_space
  cases layout with
  | standard indent afterPlace afterLevel beforeRule hindent hplace hlevel hrule =>
    exact (readLine?_written r (.inl rfl) hplace (.inl rfl) hlevel hrule hindent
      List.not_mem_nil).1
  | parsable path hpath => exact (hbracketed (List.forall_mem_nil _) hpath).2
  | inline => exact (hbracketed (List.forall_mem_nil _) List.not_mem_nil).1

/-- A line of an output: a remark, or a line without colons, as the name of a file or a blank line. -/
inductive Item where
  | remark (r : Remark) (layout : Layout)
  | other (line : String) (hline : ':' ∉ line.toList)

namespace Item

/-- The line as it is printed. -/
def text : Item → String
  | .remark r layout => String.ofList (layout.print r)
  | .other line _ => line

/-- The finding that the line reports. -/
def finding? : Item → Option Finding
  | .remark r _ => some r.finding
  | .other _ _ => none

end Item

theorem readLine?_of_no_colon (h : ':' ∉ cs) : readLine? cs = none := by
  have htrim : ':' ∉ trimStart cs := fun hmem => h ((List.dropWhile_suffix isBlank).subset hmem)
  have hpath := readAfterPath?_append htrim []
  rw [List.append_nil] at hpath
  have hnumber : readNumber? (trimStart cs) = none := by
    unfold readNumber?
    split
    · rfl
    · next hrest _ =>
      have hmem := (List.dropWhile_suffix isDigit).subset (hrest ▸ List.mem_cons_self)
      exact absurd hmem htrim
    · rfl
  unfold readLine?
  dsimp only
  rw [hpath]
  unfold readEntry?
  rw [readAfterPath?, hnumber]
  rfl

theorem Remark.finding_entry (r : Remark) : r.entry.finding = .ok r.finding := by
  have hrule : (r.rule.map String.toList).map String.ofList = r.rule := by simp [Function.comp_def]
  unfold Entry.finding entry
  rw [r.line_decimal.parseDigits_eq, r.column_decimal.parseDigits_eq]
  simp only [except_ok_bind, hrule, String.ofList_toList]
  rfl

theorem mapM_finding_items (items : List Item) :
    ((items.map fun i => i.text.toList).filterMap readLine?).mapM Entry.finding =
      .ok (items.filterMap Item.finding?) := by
  induction items with
  | nil => rfl
  | cons item items ih =>
    cases item with
    | remark r layout =>
      have hline : readLine? (Item.remark r layout).text.toList = some r.entry := by
        rw [Item.text, String.toList_ofList]
        exact readLine?_print layout r
      rw [List.map_cons, List.filterMap_cons_some hline, List.mapM_cons, r.finding_entry, ih]
      rfl
    | other line hcolon =>
      have hline : readLine? (Item.other line hcolon).text.toList = none :=
        readLine?_of_no_colon hcolon
      rw [List.map_cons, List.filterMap_cons_none hline, ih, List.filterMap_cons_none rfl]

/-- **Every layout is read.** An output whose lines are remarks, each in a layout of its own, and
other lines without colons, is read as these remarks in their order. -/
theorem parse_remarks (items : List Item) (stdout : String)
    (h : lines stdout = items.map Item.text) :
    parse stdout = .ok (items.filterMap Item.finding?) := by
  have hlines : splitLines stdout.toList = items.map fun i => i.text.toList := by
    have htexts := congrArg (List.map String.toList) h
    simpa [lines, List.map_map, Function.comp_def] using htexts
  rw [parse, hlines, mapM_finding_items]

theorem not_endsInRule (h : cs.getLast? ≠ some ')') : ¬ EndsInRule cs := by
  rintro ⟨before, gap, word, -, -, rfl⟩
  have hend : before ++ (gap ++ '(' :: (word ++ [')'])) = before ++ gap ++ '(' :: word ++ [')'] := by
    simp
  apply h
  rw [hend, List.getLast?_concat]

/-- A remark with a rule, whose message ends like one too. -/
def bracesRemark : Remark where
  line := ['0', '3']
  column := ['5']
  severity := .error
  message := "too many: \x7b  \x7d (braces)"
  rule := some "braces-2"
  line_decimal := by decide
  column_decimal := by decide
  message_ne := by decide
  message_tight := by decide
  message_plain := by decide
  rule_word := by decide
  rule_end := by rintro ⟨⟩

/-- A remark without a rule, whose message has the words and marks of other parts. -/
def startRemark : Remark where
  line := ['1']
  column := ['1', '2']
  severity := .warning
  message := "] error (a b): \"---\" is missing"
  rule := none
  line_decimal := by decide
  column_decimal := by decide
  message_ne := by decide
  message_tight := by decide
  message_plain := by decide
  rule_word := by decide
  rule_end := fun _ => not_endsInRule (by decide)

theorem parse_remarks_in_all_layouts :
    let items : List Item :=
      [.other "site_vars.yml" (by decide),
        .remark bracesRemark (.standard [' ', ' '] [' ', '\t'] [' '] [' ', ' ']
          (List.all_eq_true.1 rfl) (by decide) (by decide) (by decide)),
        .other " " (by decide), .remark startRemark .inline,
        .remark startRemark (.parsable " 7 vars.yml" (by decide)), .remark bracesRemark .inline]
    let stdout := "site_vars.yml\r\n  03:5 \terror too many: \x7b  \x7d (braces)  (braces-2)\n \n" ++
      "1:12: [warning] ] error (a b): \"---\" is missing\u2028" ++
      " 7 vars.yml:1:12: [warning] ] error (a b): \"---\" is missing\n" ++
      "03:5: [error] too many: \x7b  \x7d (braces) (braces-2)"
    lines stdout = items.map Item.text ∧
      parse stdout = .ok
        [⟨"yamllint", 3, some 5, .error, "too many: \x7b  \x7d (braces)", some "braces-2"⟩,
          ⟨"yamllint", 1, some 12, .warning, "] error (a b): \"---\" is missing", none⟩,
          ⟨"yamllint", 1, some 12, .warning, "] error (a b): \"---\" is missing", none⟩,
          ⟨"yamllint", 3, some 5, .error, "too many: \x7b  \x7d (braces)", some "braces-2"⟩] := by
  intro items stdout
  have hlines : lines stdout = items.map Item.text := by
    unfold lines
    repeat rw [String.toList_append]
    decide +kernel
  exact ⟨hlines, (parse_remarks items stdout hlines).trans (by decide)⟩

end VarsAdvisor.Yamllint

import VarsAdvisor.KeyPath.ErrorLine
import VarsAdvisor.Proofs.Text.Joined
import VarsAdvisor.Proofs.Text.Occurrences
import VarsAdvisor.Proofs.Text.Parts
import VarsAdvisor.Proofs.Text.Trim

/-!
# Writing and reading error lines

An error line is written as the segments of a path with points between them, a colon, and a message.
Reading it gives these segments and this message (`parse_joined`). A line that was read in two parts
is one that could have been written, with other blanks perhaps (`exists_joined`). So reading a line
again after writing what was read changes nothing (`parse_dotted`).
-/

namespace VarsAdvisor.ErrorLine

open VarsAdvisor.Text

/-- A text that can stand for a segment in an error line: it has no point, no colon and no blank at
its ends. It may be empty. -/
structure IsSegment (text : String) : Prop where
  noPoint : '.' ∉ text.toList
  noColon : ':' ∉ text.toList
  tight : IsTight text.toList

instance (text : String) : Decidable (IsSegment text) :=
  decidable_of_iff ('.' ∉ text.toList ∧ ':' ∉ text.toList ∧ IsTight text.toList)
    ⟨fun h => ⟨h.1, h.2.1, h.2.2⟩, fun h => ⟨h.noPoint, h.noColon, h.tight⟩⟩

variable {texts : List String} {message raw : String}

/-! ## Segments -/

theorem value_ofText (text : String) : (Segment.ofText text).value = text :=
  String.ofList_toList

theorem map_value_ofText (texts : List String) :
    (texts.map Segment.ofText).map (·.value) = texts := by
  rw [List.map_map]
  exact List.map_id'' value_ofText texts

theorem kind_ofText (text : String) : (Segment.ofText text).kind = .index ↔
    text ≠ "" ∧ ∀ c ∈ text.toList, isAsciiDigit c = true := by
  unfold Segment.ofText Segment.ofChars Segment.isDigits
  simp

/-! ## The written path -/

theorem isTight_join {pieces : List (List Char)} (h : ∀ piece ∈ pieces, IsTight piece) :
    IsTight (join ['.'] pieces) := by
  induction pieces with
  | nil => exact isTight_nil
  | cons first rest ih =>
    rw [List.forall_mem_cons] at h
    cases rest with
    | nil => exact h.1
    | cons second rest =>
      rw [join_cons (List.cons_ne_nil _ _)]
      exact h.1.append_cons (by decide) (ih h.2)

theorem not_mem_join {c : Char} (hc : c ≠ '.') {pieces : List (List Char)}
    (h : ∀ piece ∈ pieces, c ∉ piece) : c ∉ join ['.'] pieces := by
  induction pieces with
  | nil => exact List.not_mem_nil
  | cons first rest ih =>
    rw [List.forall_mem_cons] at h
    cases rest with
    | nil => exact h.1
    | cons second rest =>
      rw [join_cons (List.cons_ne_nil _ _), List.mem_append, List.mem_cons, not_or, not_or]
      exact ⟨h.1, hc, ih h.2⟩

/-- The segments of a dotted path are those that it was put together from. -/
theorem segments_join (hne : texts ≠ []) (h : ∀ t ∈ texts, IsSegment t) :
    segments (join ['.'] (texts.map String.toList)) = texts.map Segment.ofText := by
  have htight : IsTight (join ['.'] (texts.map String.toList)) := by
    apply isTight_join
    rw [List.forall_mem_map]
    exact fun t ht => (h t ht).tight
  have hsplit : splitOn '.' (join ['.'] (texts.map String.toList)) = texts.map String.toList := by
    apply splitOn_join (by simpa using hne)
    rw [List.forall_mem_map]
    exact fun t ht => (h t ht).noPoint
  unfold segments
  rw [trim_of_tight htight, hsplit, List.map_map]
  apply List.map_congr_left
  intro t ht
  unfold Segment.ofText
  rw [Function.comp_apply, trim_of_tight (h t ht).tight]

/-- Reading a line that was written gives what it was written from. -/
theorem parse_joined (hne : texts ≠ []) (h : ∀ t ∈ texts, IsSegment t)
    (hmessage : IsTight message.toList) :
    parse (joined "." texts ++ ": " ++ message) =
      ⟨joined "." texts ++ ": " ++ message, texts.map Segment.ofText, message,
        saysMissing message.toList⟩ := by
  have hchars : (joined "." texts ++ ": " ++ message).toList =
      join ['.'] (texts.map String.toList) ++ ':' :: ' ' :: message.toList := by
    rw [String.toList_append, String.toList_append, joined, String.toList_ofList,
      List.append_assoc]
    rfl
  have hcolon : ':' ∉ join ['.'] (texts.map String.toList) := by
    apply not_mem_join (by decide)
    rw [List.forall_mem_map]
    exact fun t ht => (h t ht).noColon
  have hblank : trim (' ' :: message.toList) = message.toList := by
    have hspace : ∀ c ∈ [' '], isBlank c = true := List.forall_mem_singleton.2 (by decide)
    have hnone : ∀ c ∈ ([] : List Char), isBlank c = true := List.forall_mem_nil _
    have hbetween := trim_between hspace hnone message.toList
    rwa [List.append_nil, List.singleton_append, trim_of_tight hmessage] at hbetween
  unfold parse
  rw [hchars, cutAt_singleton_eq_some_iff.2 ⟨rfl, hcolon⟩]
  dsimp only
  rw [segments_join hne h, hblank, String.ofList_toList]

/-! ## The path that was read -/

theorem isSegment_of_mem_splitOn {path piece : List Char} (hcolon : ':' ∉ path)
    (h : piece ∈ splitOn '.' (trim path)) : IsSegment (String.ofList (trim piece)) where
  noPoint := by
    rw [String.toList_ofList]
    exact fun hpoint => not_mem_of_mem_splitOn h ((trim_part piece).subset hpoint)
  noColon := by
    rw [String.toList_ofList]
    intro hmem
    have hpart := (trim_part piece).trans
      (((pieces_splitOn '.' _).mem piece h).trans (trim_part path))
    exact hcolon (hpart.subset hmem)
  tight := by
    rw [String.toList_ofList]
    exact isTight_trim piece

/-- A line with a colon reads as one that was written. -/
theorem exists_joined (h : ':' ∈ raw.toList) :
    ∃ texts message, texts ≠ [] ∧ (∀ t ∈ texts, IsSegment t) ∧ IsTight message.toList ∧
      parse raw = ⟨raw, texts.map Segment.ofText, message, saysMissing message.toList⟩ := by
  obtain ⟨path, message, hcut⟩ := exists_cutAt ((List.singleton_infix_iff ':' _).2 h)
  have hcolon : ':' ∉ path := (cutAt_singleton_eq_some_iff.1 hcut).2
  refine ⟨(splitOn '.' (trim path)).map fun piece => String.ofList (trim piece),
    String.ofList (trim message), ?_, ?_, ?_, ?_⟩
  · simpa using splitOn_ne_nil '.' _
  · rw [List.forall_mem_map]
    exact fun piece hpiece => isSegment_of_mem_splitOn hcolon hpiece
  · rw [String.toList_ofList]
    exact isTight_trim message
  · have hpath : segments path =
        ((splitOn '.' (trim path)).map fun piece => String.ofList (trim piece)).map
          Segment.ofText := by
      rw [List.map_map]
      apply List.map_congr_left
      intro piece _
      rw [Function.comp_apply, Segment.ofText, String.toList_ofList]
    unfold parse
    rw [hcut]
    dsimp only
    rw [hpath, String.toList_ofList]

/-! ## Writing and reading -/

/-- **Writing and reading error lines.** Segments without points, colons and outer blanks, written
with points between them and a message behind a colon, are read as these segments in their order,
positions being those of one or more ASCII digits, and as this message, which speaks of something
missing if it does so in lower case. The other way round, any line with a colon is read as a path
and a message that are read again when they are written. -/
theorem parse_dotted :
    (∀ (texts : List String) (message : String), texts ≠ [] → (∀ t ∈ texts, IsSegment t) →
      IsTight message.toList →
        let e := parse (joined "." texts ++ ": " ++ message)
        e.path.map (·.value) = texts ∧
          (∀ s ∈ e.path, s.kind = .index ↔
            s.value ≠ "" ∧ ∀ c ∈ s.value.toList, isAsciiDigit c = true) ∧
          e.message = message ∧ (e.missing = true ↔ contains (lowered message) "missing" = true)) ∧
    ∀ raw : String, ':' ∈ raw.toList →
      let e := parse raw
      let again := parse (e.dottedPath ++ ": " ++ e.message)
      again.path = e.path ∧ again.message = e.message ∧ again.missing = e.missing := by
  constructor
  · intro texts message hne htexts hmessage
    dsimp only
    rw [parse_joined hne htexts hmessage]
    refine ⟨map_value_ofText texts, ?_, rfl, ?_⟩
    · rw [List.forall_mem_map]
      intro text _
      rw [value_ofText]
      exact kind_ofText text
    · dsimp only
      rw [saysMissing, contains, lowered, @String.toList_ofList (lower message.toList)]
  · intro raw hcolon
    obtain ⟨texts, message, hne, htexts, hmessage, hparse⟩ := exists_joined hcolon
    have hdotted : (parse raw).dottedPath = joined "." texts := by
      unfold dottedPath KeyPath.dotted
      rw [hparse, map_value_ofText]
    dsimp only
    rw [hdotted, hparse, parse_joined hne htexts hmessage]
    exact ⟨rfl, rfl, rfl⟩

/-- An empty segment and a position; a line with other blanks, an empty segment and more colons. -/
theorem parse_dotted_devices :
    let texts := ["devices", "", "3", "sw 1"]
    let message := "Required field MISSING: type"
    let raw := "\u00a0devices . .3:\u3000: no. \t"
    (texts ≠ [] ∧ (∀ t ∈ texts, IsSegment t) ∧ IsTight message.toList ∧ ':' ∈ raw.toList) ∧
      (parse (joined "." texts ++ ": " ++ message)).missing = true ∧
      (parse raw).dottedPath = "devices..3" ∧
      (parse ((parse raw).dottedPath ++ ": " ++ (parse raw).message)).path = (parse raw).path := by
  intro texts message raw
  have hne : texts ≠ [] := by decide
  have htexts : ∀ t ∈ texts, IsSegment t := by decide
  have hmessage : IsTight message.toList := by decide
  have hcolon : ':' ∈ raw.toList := by decide
  obtain ⟨-, -, -, hmissing⟩ := parse_dotted.1 texts message hne htexts hmessage
  obtain ⟨hpath, -, -⟩ := parse_dotted.2 raw hcolon
  exact ⟨⟨hne, htexts, hmessage, hcolon⟩, hmissing.2 (by decide +kernel), by decide +kernel, hpath⟩

end VarsAdvisor.ErrorLine

import VarsAdvisor.Editor.Surface
import VarsAdvisor.Proofs.Json.Numbers
import VarsAdvisor.Proofs.Text.Content
import VarsAdvisor.Proofs.Text.Occurrences

/-!
# Reading numbered documents

A line behind its number is still one line, and never empty. So splitting the numbered form of a
document gives its lines, each behind its number (`Document.lines_numbered`), and without the
numbers they are the document again (`Document.ofNumbered_numbered`). It makes no difference whether
the document was taken from a text or read off a surface that shows it (`Surface.snapshot?_eq`).
-/

namespace VarsAdvisor

open VarsAdvisor.Text

/-! ## Lines one by one -/

theorem itemAt?_succ {α : Type} (xs : List α) (i : Nat) :
    itemAt? xs (((i + 1 : Nat) : Int) - 1) = xs[i]? := by
  have hi : ((i + 1 : Nat) : Int) - 1 = i := by omega
  rw [hi, itemAt?, if_pos (Int.natCast_nonneg i), Int.toNat_natCast]

namespace Surface

/-- The text of a line; zero and negative numbers count back from the last line. -/
def lineText? (s : Surface) (number : Int) : Option String :=
  itemAt? s.lines (number - 1)

/-- The document that one gets by asking a surface for one line after the other. -/
def snapshot? (s : Surface) : Option Document :=
  ((List.range' 1 s.lineCount).mapM fun number : Nat => s.lineText? number).map Document.mk

/-- The lines behind those that were read before. -/
theorem mapM_lineText? {s : Surface} {before after : List String} (h : s.lines = before ++ after) :
    (List.range' (before.length + 1) after.length).mapM
      (fun number : Nat => s.lineText? number) = some after := by
  induction after generalizing before with
  | nil => rfl
  | cons line after ih =>
    have hline : s.lineText? (before.length + 1 : Nat) = some line := by
      rw [lineText?, itemAt?_succ, h, List.getElem?_append_right (Nat.le_refl _), Nat.sub_self]
      rfl
    have hbehind : s.lines = (before ++ [line]) ++ after := by simp [h]
    have hafter := ih hbehind
    rw [List.length_append, List.length_singleton] at hafter
    rw [List.length_cons, List.range'_succ, List.mapM_cons, hline, hafter]
    rfl

/-- A surface has every line it is asked for, and they are its document. -/
theorem snapshot?_eq (s : Surface) : s.snapshot? = some s.document :=
  congrArg (Option.map Document.mk) (mapM_lineText? (List.nil_append s.lines).symm)

end Surface

namespace Document

variable {d d' : Document} {line : String}

theorem line?_succ (d : Document) (i : Nat) : d.line? (i + 1 : Nat) = d.lines[i]? :=
  itemAt?_succ d.lines i

/-! ## Numbered lines -/

theorem toList_numberedLine (line : String) (number : Nat) :
    (numberedLine line number).toList = Nat.toDigits 10 number ++ ':' :: ' ' :: line.toList := by
  have htext : numberedLine line number = toString number ++ ": " ++ line := rfl
  rw [htext, String.toList_append, String.toList_append, Nat.toString_eq_repr, Nat.toList_repr,
    List.append_assoc]
  rfl

theorem isLine_numberedLine (h : IsLine line.toList) (number : Nat) :
    IsLine (numberedLine line number).toList := by
  have hdigits : IsLine (Nat.toDigits 10 number) := by
    intro c hc
    have hblank := isBlank_of_ascii (Json.isAsciiDigit_of_mem_toDigits hc)
    rw [← Bool.not_eq_true] at hblank ⊢
    exact fun hbreak => hblank (isBlank_of_isLineBreak hbreak)
  rw [toList_numberedLine]
  refine List.forall_mem_append.2 ⟨hdigits, ?_⟩
  exact List.forall_mem_cons.2 ⟨by decide, List.forall_mem_cons.2 ⟨by decide, h⟩⟩

theorem numberedLine_ne_empty (line : String) (number : Nat) : numberedLine line number ≠ "" := by
  intro hempty
  have hnil : ([] : List Char) = Nat.toDigits 10 number ++ ':' :: ' ' :: line.toList := by
    rw [← toList_numberedLine, hempty]
    rfl
  simp at hnil

/-- What stands behind the number of a line and the blank after it. -/
def unnumbered (line : String) : String :=
  match cutAt [':'] line.toList with
  | some (_, rest) => String.ofList rest.tail
  | none => line

/-- The line itself may hold colons, but its number does not. -/
theorem unnumbered_numberedLine (line : String) (number : Nat) :
    unnumbered (numberedLine line number) = line := by
  have hcolon : ':' ∉ Nat.toDigits 10 number := fun hmem =>
    absurd (Json.isAsciiDigit_of_mem_toDigits hmem) (by decide)
  have hcut := cutAt_singleton_eq_some_iff.2 ⟨toList_numberedLine line number, hcolon⟩
  rw [unnumbered, hcut]
  exact String.ofList_toList

/-! ## Numbered documents -/

/-- The lines of a numbered document are the lines of the document, each behind its number. -/
theorem lines_numbered (hd : ∀ line ∈ d.lines, IsLine line.toList) :
    Text.lines d.numbered =
      (d.lines.zipIdx 1).map fun (line, number) => numberedLine line number := by
  have hlines : ∀ l ∈ (d.lines.zipIdx 1).map fun (line, number) => numberedLine line number,
      IsLine l.toList := by
    refine List.forall_mem_map.2 fun entry hentry => ?_
    exact isLine_numberedLine (hd entry.1 (List.fst_mem_of_mem_zipIdx hentry)) entry.2
  refine lines_joined hlines ?_
  rw [List.getLast?_map]
  intro hempty
  obtain ⟨entry, -, hnone⟩ := Option.map_eq_some_iff.1 hempty
  exact numberedLine_ne_empty entry.1 entry.2 hnone

/-- The document of which a text is the numbered form. -/
def ofNumbered (text : String) : Document :=
  ⟨(Text.lines text).map unnumbered⟩

/-- Nothing is lost if each line is one. -/
theorem ofNumbered_numbered (hd : ∀ line ∈ d.lines, IsLine line.toList) :
    ofNumbered d.numbered = d := by
  have hunnumbered : (unnumbered ∘ fun (line, number) => numberedLine line number) = Prod.fst :=
    funext fun (line, number) => unnumbered_numberedLine line number
  rw [ofNumbered, lines_numbered hd, List.map_map, hunnumbered, List.zipIdx_map_fst]

theorem numbered_inj (hd : ∀ line ∈ d.lines, IsLine line.toList)
    (hd' : ∀ line ∈ d'.lines, IsLine line.toList) : d'.numbered = d.numbered ↔ d' = d := by
  refine ⟨fun h => ?_, congrArg numbered⟩
  rw [← ofNumbered_numbered hd', h, ofNumbered_numbered hd]

/-- A numbered document shows each line behind its number. -/
theorem getElem?_lines_numbered (hd : ∀ line ∈ d.lines, IsLine line.toList) {number : Nat}
    (hfirst : 1 ≤ number) (hlast : number ≤ d.lineCount) :
    ∃ line, d.line? number = some line ∧
      (Text.lines d.numbered)[number - 1]? = some (toString number ++ ": " ++ line) := by
  obtain ⟨i, rfl⟩ := Nat.exists_eq_add_of_le' hfirst
  have hi : i < d.lines.length := hlast
  refine ⟨d.lines[i], ?_, ?_⟩
  · rw [line?_succ, List.getElem?_eq_getElem hi]
  · rw [Nat.add_sub_cancel, lines_numbered hd, List.getElem?_map, List.getElem?_zipIdx,
      List.getElem?_eq_getElem hi, Nat.add_comm 1 i]
    rfl

/-- **A numbered document can be read back.** Reading a surface that shows a text line by line gives
the document of the text. Split into lines, the numbered form of this document has as many as the
document, and each is the line behind its decimal number. The document is recovered from it, so two
texts have one numbered form only if they have the same lines. -/
theorem numbered_reads_back (text : String) :
    let d := ofText text
    (∀ s : Surface, s.lines = Text.lines text → s.snapshot? = some d ∧ s.document = d) ∧
    (Text.lines d.numbered).length = d.lineCount ∧
    (∀ number : Nat, 1 ≤ number → number ≤ d.lineCount →
      ∃ line, d.line? number = some line ∧
        (Text.lines d.numbered)[number - 1]? = some (toString number ++ ": " ++ line)) ∧
    ofNumbered d.numbered = d ∧
    ∀ text' : String,
      (ofText text').numbered = d.numbered ↔ Text.lines text' = Text.lines text := by
  intro d
  have hd : ∀ line ∈ d.lines, IsLine line.toList := fun _ => isLine_of_mem_lines
  refine ⟨?_, ?_, ?_, ofNumbered_numbered hd, ?_⟩
  · intro s hshows
    have hdocument : s.document = d := congrArg Document.mk hshows
    exact ⟨s.snapshot?_eq.trans (congrArg some hdocument), hdocument⟩
  · rw [lines_numbered hd, List.length_map, List.length_zipIdx]
    rfl
  · intro number hfirst hlast
    exact getElem?_lines_numbered hd hfirst hlast
  · intro text'
    have hd' : ∀ line ∈ (ofText text').lines, IsLine line.toList := fun _ => isLine_of_mem_lines
    exact (numbered_inj hd hd').trans ⟨congrArg Document.lines, congrArg Document.mk⟩

/-- Of a text with three kinds of line breaks the last line is empty. Its number is shown all the
same, so that the text is told apart from one without this line. -/
theorem numbered_reads_back_empty_line :
    let d := ofText "a:\x85- b: 1:\x0c\r\n"
    let s : Surface := ⟨["a:", "- b: 1:", ""], [2], [(0, ⟨1, 2, "x", "y"⟩)]⟩
    s.snapshot? = some d ∧ d.lineCount = 3 ∧ (Text.lines d.numbered).length = 3 ∧
      d.line? 3 = some "" ∧ (Text.lines d.numbered)[2]? = some "3: " ∧
      ofNumbered d.numbered = d ∧ (ofText "a:\n- b: 1:\n\n").numbered = d.numbered ∧
      (ofText "a:\n- b: 1:\n").numbered ≠ d.numbered := by
  intro d s
  have hcount : d.lineCount = 3 := by decide
  have hshows : s.lines = Text.lines "a:\x85- b: 1:\x0c\r\n" := by decide
  obtain ⟨hsurface, hlength, hlines, hback, htexts⟩ :=
    numbered_reads_back "a:\x85- b: 1:\x0c\r\n"
  obtain ⟨line, hline, hshown⟩ := hlines 3 (by decide) (le_of_eq hcount.symm)
  have hempty : d.line? 3 = some "" := by decide
  obtain rfl : line = "" := Option.some_inj.1 (hline.symm.trans hempty)
  exact ⟨(hsurface s hshows).1, hcount, hlength.trans hcount, hline, hshown, hback,
    (htexts "a:\n- b: 1:\n\n").2 (by decide), mt (htexts "a:\n- b: 1:\n").1 (by decide)⟩

end Document

end VarsAdvisor

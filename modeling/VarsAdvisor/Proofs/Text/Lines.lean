import VarsAdvisor.Document.Basic
import VarsAdvisor.Workspace.Tree

/-!
# Lines of files

Reading a file unifies its line breaks before its text is cut into lines. Each break is a break of
lines by itself, so the lines are those of the text as it stands in the file
(`splitLines_unifyBreaks`): a document has the same lines whether it is read from its file or given
as text (`Document.ofBytes_of_decode`, `Tree.readText_of_decode`).
-/

namespace VarsAdvisor

open VarsAdvisor.Text

namespace Text

/-- A break that is not the first half of `\r\n` ends a line. -/
theorem splitLines_of_break {c : Char} {cs : List Char} (hc : isLineBreak c = true)
    (hpair : ∀ r, c = '\r' → cs = '\n' :: r → False) :
    splitLines (c :: cs) = [] :: splitLines cs := by
  rw [splitLines, if_pos hc]
  exact hpair

theorem splitLines_of_not_break {c : Char} (hc : isLineBreak c = false) (cs : List Char) :
    splitLines (c :: cs) = consToFirst c (splitLines cs) := by
  rw [splitLines, if_neg (Bool.not_eq_true _ ▸ hc)]
  rintro r rfl -
  cases hc

theorem splitLines_feed (cs : List Char) : splitLines ('\n' :: cs) = [] :: splitLines cs :=
  splitLines_of_break rfl fun _ hreturn => absurd hreturn (by decide)

/-- Unifying the line breaks of a text leaves its lines as they are. -/
theorem splitLines_unifyBreaks (cs : List Char) : splitLines (unifyBreaks cs) = splitLines cs := by
  have hreturn : isLineBreak '\r' = true := rfl
  induction cs using unifyBreaks.induct with
  | case1 => rfl
  | case2 r ih => rw [unifyBreaks, splitLines_feed, ih, splitLines]
  | case3 c r hpair ih =>
    rw [unifyBreaks.eq_3 c r hpair]
    by_cases hc : c = '\r'
    · rw [if_pos hc, splitLines_feed, ih, splitLines_of_break (hc ▸ hreturn) hpair]
    · rw [if_neg hc]
      cases hbreak : isLineBreak c with
      | true =>
        rw [splitLines_of_break hbreak fun _ h => absurd h hc, ih,
          splitLines_of_break hbreak hpair]
      | false => rw [splitLines_of_not_break hbreak, ih, splitLines_of_not_break hbreak]

theorem lines_unifyBreaks (s : String) :
    lines (String.ofList (unifyBreaks s.toList)) = lines s := by
  unfold lines
  rw [String.toList_ofList, splitLines_unifyBreaks]

end Text

variable {bytes : List UInt8} {text : String}

/-- A document that is read from its file has the lines of the text in the file. -/
theorem Document.ofBytes_of_decode (h : Utf8.decode bytes = .ok text.toList) :
    ofBytes bytes = .ok (ofText text) := by
  unfold ofBytes ofText
  rw [h, Except.map, lines_unifyBreaks]

theorem Tree.readText_of_decode {t : Tree} {p : Path} (hpossible : p.isImpossible = false)
    (hfile : t.find? p = some (.file bytes)) (h : Utf8.decode bytes = .ok text.toList) :
    t.readText p = .ok (String.ofList (unifyBreaks text.toList)) := by
  unfold readText
  rw [hpossible, if_neg Bool.false_ne_true, hfile]
  dsimp only
  rw [h]

end VarsAdvisor

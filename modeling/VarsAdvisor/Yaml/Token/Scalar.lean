import VarsAdvisor.Yaml.Cursor
import VarsAdvisor.Yaml.Problem

/-!
# Scalars in a YAML text

Quoted, block and plain scalars, each read from a cursor at its start. Where a scalar runs over
several lines, single line breaks in it are folded into spaces.
-/

namespace VarsAdvisor.Yaml

open VarsAdvisor.Text

/-- Fails with a problem at the cursor. -/
def failAt {α : Type} (p : Problem) (c : Cursor) : Except Failure α :=
  .error (.problem p (some c.index))

/-! ## Quoted scalars -/

/-- The character that an escape of one letter stands for. -/
def escapedChar? : Char → Option Char
  | '0' => some '\x00'
  | 'a' => some '\x07'
  | 'b' => some '\x08'
  | 't' => some '\t'
  | '\t' => some '\t'
  | 'n' => some '\n'
  | 'v' => some '\x0b'
  | 'f' => some '\x0c'
  | 'r' => some '\r'
  | 'e' => some '\x1b'
  | ' ' => some ' '
  | '"' => some '"'
  | '/' => some '/'
  | '\\' => some '\\'
  | 'N' => some '\x85'
  | '_' => some '\xa0'
  | 'L' => some '\u2028'
  | 'P' => some '\u2029'
  | _ => none

/-- The number of digits of an escape by code. -/
def escapeLength? : Char → Option Nat
  | 'x' => some 2
  | 'u' => some 4
  | 'U' => some 8
  | _ => none

/-- The value of hexadecimal digits. -/
def hexNumber (cs : List Char) : Nat :=
  cs.foldl (fun n c =>
    let v := c.toNat
    n * 16 + (if isNumeric c then v - 48 else if 97 ≤ v then v - 87 else v - 55)) 0

/-- The line breaks from here on, without the blanks around them, and what they stand for. A
document separator may not stand in a quoted scalar. -/
def quotedBreaks : Nat → Cursor → Except Failure (List Char × Cursor)
  | 0, c => .ok ([], c)
  | fuel + 1, c =>
    if c.atSeparator then failAt .unexpectedSeparator c
    else
      let c := c.skip isSpaceOrTab
      match c.afterBreak? with
      | none => .ok ([], c)
      | some after => do
        let (more, c') ← quotedBreaks fuel after
        pure (breakChar c.peek :: more, c')

/-- The blanks from here on: kept within a line, folded where lines end. -/
def quotedBlanks (c : Cursor) : Except Failure (List Char × Cursor) :=
  let blanks := c.span isSpaceOrTab
  let c := c.skip isSpaceOrTab
  if c.rest.isEmpty then failAt .unexpectedEnd c
  else match c.afterBreak? with
    | none => .ok (blanks, c)
    | some after => do
      let (more, c') ← quotedBreaks (after.rest.length + 1) after
      if breakChar c.peek = '\n' then
        pure (if more.isEmpty then [' '] else more, c')
      else pure (c.peek :: more, c')

/-- An escape by code: `count` hexadecimal digits. -/
def escapeCode (count : Nat) (c : Cursor) : Except Failure (CodePoint × Cursor) :=
  let digits := (c.rest.take count).takeWhile isHex
  if digits.length < count then
    failAt (.expectedEscapeDigits count (c.peekAt digits.length)) c
  else
    let n := hexNumber digits
    if 0x110000 ≤ n then .error (.mishap .escapeCode) else .ok (.ofNat n, c.advance count)

/-- The code points of a quoted scalar up to the closing mark, behind those in `acc`, which are in
reverse order. An escape may stand for a surrogate. -/
def quotedBody (double : Bool) :
    Nat → List CodePoint → Cursor → Except Failure (List CodePoint × Cursor)
  | 0, acc, c => .ok (acc.reverse, c)
  | fuel + 1, acc, c =>
    match c.peek with
    | '\'' =>
      if double then quotedBody double fuel (.char '\'' :: acc) c.next
      else if c.peekAt 1 = '\'' then quotedBody double fuel (.char '\'' :: acc) (c.advance 2)
      else .ok (acc.reverse, c.next)
    | '"' =>
      if double then .ok (acc.reverse, c.next) else quotedBody double fuel (.char '"' :: acc) c.next
    | '\\' =>
      if !double then quotedBody double fuel (.char '\\' :: acc) c.next
      else
        let e := c.next
        match escapedChar? e.peek, escapeLength? e.peek with
        | some x, _ => quotedBody double fuel (.char x :: acc) e.next
        | none, some count => do
          let (x, c') ← escapeCode count e.next
          quotedBody double fuel (x :: acc) c'
        | none, none => match e.afterBreak? with
          | some after => do
            let (more, c') ← quotedBreaks (after.rest.length + 1) after
            quotedBody double fuel ((pointsOf more).reverse ++ acc) c'
          | none => failAt (.unknownEscape e.peek) e
    | x =>
      if isSpaceOrTab x || isEnd x then do
        let (more, c') ← quotedBlanks c
        quotedBody double fuel ((pointsOf more).reverse ++ acc) c'
      else quotedBody double fuel (.char x :: acc) c.next

/-- A quoted scalar whose opening mark is here. -/
def readQuoted (double : Bool) (c : Cursor) : Except Failure (WideText × Cursor) := do
  let (content, c') ← quotedBody double (c.rest.length + 1) [] c.next
  pure (⟨content⟩, c')

/-! ## Block scalars -/

/-- What is to become of the line breaks at the end of a block scalar. -/
inductive Chomping where
  | clip
  | keep
  | strip
  deriving DecidableEq, Repr

/-- The chomping that a sign asks for. -/
def chomping? : Char → Option Chomping
  | '+' => some .keep
  | '-' => some .strip
  | _ => none

/-- The indentation that a digit asks for. -/
def increment? (c : Cursor) : Except Failure (Option Nat × Cursor) :=
  if isNumeric c.peek then
    if c.peek = '0' then failAt .zeroIndentation c
    else .ok (some (c.peek.toNat - 48), c.next)
  else .ok (none, c)

/-- The indicators in the header of a block scalar, in either order. -/
def readIndicators (c : Cursor) : Except Failure (Chomping × Option Nat × Cursor) := do
  let (chomping, increment, c) ← match chomping? c.peek with
    | some ch => do
      let (n, c) ← increment? c.next
      pure (ch, n, c)
    | none => do
      let (n, c) ← increment? c
      match n, chomping? c.peek with
      | some _, some ch => pure (ch, n, c.next)
      | _, _ => pure (.clip, n, c)
  if c.peek = ' ' || isEnd c.peek then pure (chomping, increment, c)
  else failAt (.expectedIndicators c.peek) c

/-- The rest of a line that holds at most a comment, with its line break. The comment is given with
the spaces before it. -/
def readLineRest (c : Cursor) : Except Failure (Option (List Char) × Cursor) :=
  let spaces := c.span (· == ' ')
  let c := c.skip (· == ' ')
  let comment := if c.peek = '#' then c.span (fun x => !isEnd x) else []
  let c := c.advance comment.length
  if isEnd c.peek then
    .ok (if comment.isEmpty then none else some (spaces ++ comment), c.skipBreak)
  else failAt (.expectedLineEnd c.peek) c

/-- The leading blank lines of a block scalar: their breaks, the greatest column that spaces reach,
the column of the first break, and the cursors behind the last break and behind everything. -/
structure Leading where
  breaks : List Char
  deepest : Nat
  first : Option Nat
  stop : Cursor
  here : Cursor

/-- Reads spaces and line breaks. -/
def readLeading : Nat → Leading → Leading
  | 0, l => l
  | fuel + 1, l =>
    let c := l.here
    if c.peek = ' ' then
      readLeading fuel { l with here := c.next, deepest := max l.deepest c.next.column }
    else match c.afterBreak? with
      | none => l
      | some after => readLeading fuel
          { l with
            breaks := l.breaks ++ [breakChar c.peek]
            first := some (l.first.getD c.column)
            stop := after
            here := after }

/-- Spaces up to a column. -/
def skipIndent (indent : Nat) : Nat → Cursor → Cursor
  | 0, c => c
  | fuel + 1, c =>
    if c.column < indent ∧ c.peek = ' ' then skipIndent indent fuel c.next else c

/-- The blank lines at an indentation: their breaks, and the cursors behind the last break and
behind the indentation of the next line. -/
def blockBreaks (indent : Nat) : Nat → Cursor → Cursor → List Char × Cursor × Cursor
  | 0, stop, c => ([], stop, c)
  | fuel + 1, stop, c =>
    let c := skipIndent indent c.rest.length c
    match c.afterBreak? with
    | none => ([], stop, c)
    | some after =>
      let (more, stop, c') := blockBreaks indent fuel after after
      (breakChar c.peek :: more, stop, c')

/-- The state of reading the lines of a block scalar: the text so far in reverse, the break after
the last line, the breaks of the blank lines that follow, and the cursors as in `blockBreaks`. -/
structure BlockLines where
  text : List Char
  lineBreak : List Char
  breaks : List Char
  stop : Cursor
  here : Cursor

/-- Stands in a folded text where a line ended, until the text is taken as a value. -/
def foldMark : Char := '\x07'

/-- Reads the lines of a block scalar at an indentation. At the top level a document separator
ends the scalar. -/
def blockLines (folded topLevel : Bool) (indent : Nat) : Nat → BlockLines → BlockLines
  | 0, b => b
  | fuel + 1, b =>
    let c := b.here
    if c.column = indent ∧ !c.rest.isEmpty then
      let leading := isSpaceOrTab c.peek
      let line := c.span (fun x => !isEnd x)
      let afterLine := c.skip (fun x => !isEnd x)
      let lineBreak := if afterLine.afterBreak?.isSome then [breakChar afterLine.peek] else []
      let afterBreak := afterLine.skipBreak
      let (breaks, stop, here) := blockBreaks indent (afterBreak.rest.length + 1) afterBreak afterBreak
      let text := line.reverse ++ b.breaks.reverse ++ b.text
      if topLevel ∧ here.column = 0 ∧ here.atSeparator then
        ⟨text, lineBreak, breaks, stop, here⟩
      else
        let folds := folded && lineBreak = ['\n']
        let joint :=
          if here.column != indent || here.rest.isEmpty then []
          else
            (if folds && !leading && !isSpaceOrTab here.peek then
              if breaks.isEmpty then [' '] else []
            else lineBreak) ++ if folds then [foldMark] else []
        blockLines folded topLevel indent fuel ⟨joint ++ text, lineBreak, breaks, stop, here⟩
    else b

/-- A block scalar: its text, the comment in its header, the cursors at its end and behind its blank
lines, and the blank lines behind it that are no part of the text. -/
structure Block where
  text : String
  header : Option (List Char)
  stop : Cursor
  here : Cursor
  trailing : List Char

/-- A block scalar whose indicator is here, in a block at `indent`. -/
def readBlock (folded : Bool) (indent : Int) (c : Cursor) : Except Failure Block := do
  let (chomping, increment, c) ← readIndicators c.next
  let (header, c) ← readLineRest c
  let least := (indent + 1).toNat
  let (topLevel, column, breaks, stop, here) ← match increment with
    | none => do
      let l := readLeading (c.rest.length + 1) ⟨[], 0, none, c, c⟩
      match l.first with
      | some first =>
        if 0 < first ∧ first < l.deepest then .error (.problem .deeperThanFirstLine none)
      | none => pure ()
      pure (least == 0, max least l.deepest, l.breaks, l.stop, l.here)
    | some n =>
      let least := max 1 least
      let column := least + n - 1
      let (breaks, stop, here) := blockBreaks column (c.rest.length + 1) c c
      pure (false, column, breaks, stop, here)
  let b := blockLines folded topLevel column (here.rest.length + 1) ⟨[], [], breaks, stop, here⟩
  let text := match chomping with
    | .strip => b.text.reverse
    | .clip => b.text.reverse ++ b.lineBreak
    | .keep => b.text.reverse ++ b.lineBreak ++ b.breaks
  pure ⟨String.ofList text, header, b.stop, b.here, if chomping = .keep then [] else b.breaks⟩

/-! ## Plain scalars -/

/-- The characters of a plain scalar up to a gap, a colon before a gap or, in a flow collection, an
indicator. A question mark is an indicator in version 1.1 only. -/
def plainRun (flow oldVersion : Bool) : List Char → List Char
  | [] => []
  | x :: r =>
    let gapAfter := isGap (r.headD endMark)
    if x = ':' ∧ !gapAfter then x :: plainRun flow oldVersion r
    else if x = '?' ∧ !oldVersion then x :: plainRun flow oldVersion r
    else if isGap x || x == ':' || (flow && isOneOf ",?[]\x7b\x7d" x) then []
    else x :: plainRun flow oldVersion r

/-- Line breaks and spaces within a plain scalar; `none` if a document separator follows a break. -/
def plainBreaks : Nat → Cursor → Option (List Char) × Cursor
  | 0, c => (some [], c)
  | fuel + 1, c =>
    if c.peek = ' ' then plainBreaks fuel c.next
    else match c.afterBreak? with
      | none => (some [], c)
      | some after =>
        if after.atSeparator then (none, after)
        else
          let (more, c') := plainBreaks fuel after
          (more.map (breakChar c.peek :: ·), c')

/-- The blanks within a plain scalar as they are folded, whether a line ended in them, and where
they end. No blanks are left if a document separator follows. -/
def plainBlanks (c : Cursor) : List Char × Bool × Cursor :=
  let blanks := c.span (· == ' ')
  let c := c.skip (· == ' ')
  match c.afterBreak? with
  | none => (blanks, false, c)
  | some after =>
    if after.atSeparator then ([], true, after)
    else
      let (breaks, c') := plainBreaks (after.rest.length + 1) after
      match breaks with
      | none => ([], true, c')
      | some more =>
        if breakChar c.peek = '\n' then (if more.isEmpty then [' '] else more, true, c')
        else (c.peek :: more, true, c')

/-- A plain scalar: its text in reverse, the blanks after it, whether a line ended in them, and the
cursors at its end and behind those blanks. -/
structure Plain where
  text : List Char
  blanks : List Char
  lineEnded : Bool
  stop : Cursor
  here : Cursor

/-- Reads the parts of a plain scalar that blanks separate; `blanks` are those before the next
part. In a block the scalar ends where a line is indented less than `indent`. -/
def plainParts (flow oldVersion : Bool) (indent : Int) : Nat → List Char → Plain → Plain
  | 0, _, p => p
  | fuel + 1, blanks, p =>
    let c := p.here
    let run := plainRun flow oldVersion c.rest
    if c.peek = '#' || run.isEmpty then p
    else
      let stop := c.advance run.length
      let (more, ended, here) := plainBlanks stop
      let p' : Plain := ⟨run.reverse ++ blanks.reverse ++ p.text, more, ended, stop, here⟩
      if more.isEmpty || here.peek == '#' || (!flow && decide ((here.column : Int) < indent)) then p'
      else plainParts flow oldVersion indent fuel more p'

/-- The plain scalar here. -/
def readPlain (flow oldVersion : Bool) (indent : Int) (c : Cursor) : Plain :=
  plainParts flow oldVersion indent (c.rest.length + 1) [] ⟨[], [], false, c, c⟩

end VarsAdvisor.Yaml

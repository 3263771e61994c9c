import VarsAdvisor.Yaml.Token.Label

/-!
# The queue of tokens

Tokens are read one by one into a queue, from which the grammar takes them. Whether a node is the
key of a mapping shows only at the colon behind it, so a place where such a key may start is
remembered, and the key's token is put before it when the colon comes. A key must not span lines,
nor more than 1024 characters. Indentation opens and closes block collections.
-/

namespace VarsAdvisor.Yaml

open VarsAdvisor.Text

/-- A place where a key may have started. `required` if nothing else can stand there. -/
structure KeyPlace where
  number : Nat
  required : Bool
  index : Nat
  line : Nat
  column : Nat

/-- The state of reading tokens. `flow` holds the opening marks of the flow collections around the
cursor, `keys` at most one place of a key for each depth of flow collections, `taken` the number of
tokens that have left the queue, `intruder` a character that the text may not hold and where its
piece starts. -/
structure Queue where
  cursor : Cursor
  tokens : List Token
  taken : Nat
  done : Bool
  flow : List Char
  indent : Int
  indents : List Int
  keyAllowed : Bool
  keys : List (Nat × KeyPlace)
  version : Option (Nat × Nat)
  intruder : Option (Nat × Char)

namespace Queue

/-- The token without an extent at the cursor. -/
def markAt (c : Cursor) (x : Lexeme) : Token :=
  ⟨x, c.index, c.line, c.index, c.line, none⟩

/-- The queue at the start of a text. -/
def start (text : List Char) : Queue :=
  let c := Cursor.start text
  ⟨c, [markAt c .streamStart], 0, false, [], -1, [], true, [], none, intruder? text⟩

/-- The text asks for version 1.1. -/
def oldVersion (q : Queue) : Bool :=
  q.version == some (1, 1)

/-- Inside a flow collection. -/
def inFlow (q : Queue) : Bool :=
  !q.flow.isEmpty

/-- Adds a token at the end. -/
def push (q : Queue) (t : Token) : Queue :=
  { q with tokens := q.tokens ++ [t] }

/-- Adds a token from the cursor to another, and goes there. -/
def pushTo (q : Queue) (x : Lexeme) (stop : Cursor) : Queue :=
  { q with
    tokens := q.tokens ++ [⟨x, q.cursor.index, q.cursor.line, stop.index, stop.line, none⟩]
    cursor := stop }

/-! ## Places of keys -/

/-- The place of a key at the current depth. -/
def keyHere? (q : Queue) : Option KeyPlace :=
  q.keys.lookup q.flow.length

/-- Without the place of a key at the current depth. -/
def forgetKey (q : Queue) : Queue :=
  { q with keys := q.keys.filter fun (depth, _) => depth != q.flow.length }

/-- Gives up the place of a key at the current depth, unless a key is required there. -/
def dropKey (q : Queue) : Except Failure Queue :=
  match q.keyHere? with
  | some k => if k.required then failAt .missingColon q.cursor else .ok q.forgetKey
  | none => .ok q

/-- Too far from the cursor to be a key. -/
def isStale (q : Queue) (k : KeyPlace) : Bool :=
  k.line != q.cursor.line || 1024 < q.cursor.index - k.index

/-- Gives up the places that are too far back. -/
def dropStale (q : Queue) : Except Failure Queue :=
  if q.keys.any fun (_, k) => q.isStale k && k.required then failAt .missingColon q.cursor
  else .ok { q with keys := q.keys.filter fun (_, k) => !q.isStale k }

/-- Remembers the cursor as a place of a key, where keys are allowed. -/
def saveKey (q : Queue) : Except Failure Queue :=
  if q.keyAllowed then do
    let required := !q.inFlow && q.indent == (q.cursor.column : Int)
    let q ← q.dropKey
    let place : KeyPlace :=
      ⟨q.taken + q.tokens.length, required, q.cursor.index, q.cursor.line, q.cursor.column⟩
    pure { q with keys := (q.flow.length, place) :: q.keys }
  else .ok q

/-! ## Indentation -/

/-- Closes block collections, at most `fuel`, until the indentation is at most `column`. -/
def closeTo (column : Int) : Nat → Queue → Queue
  | 0, q => q
  | fuel + 1, q =>
    if column < q.indent then
      closeTo column fuel
        { q.push (markAt q.cursor .blockEnd) with
          indent := q.indents.headD (-1)
          indents := q.indents.drop 1 }
    else q

/-- Closes the block collections that are indented more than `column`. -/
def unwind (q : Queue) (column : Int) : Queue :=
  if q.inFlow then q else closeTo column (q.indents.length + 1) q

/-- Opens a block collection at a column, if that is deeper than the current one. -/
def deepen (q : Queue) (column : Nat) : Option Queue :=
  if q.indent < (column : Int) then
    some { q with indent := column, indents := q.indent :: q.indents }
  else none

/-! ## Between tokens -/

/-- Skips a byte-order mark at the start of the text. -/
def skipMark (q : Queue) : Queue :=
  if q.cursor.index = 0 ∧ q.cursor.peek = '\uFEFF' then { q with cursor := q.cursor.next } else q

/-- Line breaks in a row, and the cursor behind them. -/
def readBreaks : Nat → Cursor → List Char × Cursor
  | 0, c => ([], c)
  | fuel + 1, c => match c.afterBreak? with
    | some after =>
      let (more, c') := readBreaks fuel after
      (breakChar c.peek :: more, c')
    | none => ([], c)

/-- Line breaks and blanks in a row, and the cursor behind them. -/
def readEmptyLines : Nat → Cursor → List Char × Cursor
  | 0, c => ([], c)
  | fuel + 1, c => match c.afterBreak? with
    | some after =>
      let (more, c') := readEmptyLines fuel after
      (breakChar c.peek :: more, c')
    | none =>
      if isSpaceOrTab c.peek then
        let (more, c') := readEmptyLines fuel c.next
        (c.peek :: more, c')
      else ([], c)

/-- A comment with its line break and the empty lines after it, and the cursor behind them. At the
end of the text a line break is added. -/
def readComment (c : Cursor) : Comment × Cursor :=
  let text := c.span fun x => !isEnd x
  let stop := c.advance text.length
  if stop.rest.isEmpty then (⟨text ++ ['\n'], c.line, c.column⟩, stop)
  else
    let (breaks, after) := readBreaks (stop.rest.length + 1) stop.next
    (⟨text ++ stop.peek :: breaks, c.line, c.column⟩, after)

/-- A text without what follows its last line feed. -/
def cutAfterBreak (text : List Char) : List Char :=
  match cutAtLast '\n' text with
  | some (before, _) => before ++ ['\n']
  | none => text ++ ['\n']

/-- A text without the spaces at its end. -/
def trimSpaces (text : List Char) : List Char :=
  (text.reverse.dropWhile (· == ' ')).reverse

/-- After a line break in a block a key may start. -/
def allowKeyInBlock (q : Queue) : Queue :=
  if q.inFlow then q else { q with keyAllowed := true }

/-- Skips blanks and single line breaks up to the next token. A comment, or empty lines, on the way
are given. -/
def skipBlanks : Nat → Queue → Option Comment × Queue
  | 0, q => (none, q)
  | fuel + 1, q =>
    let c := q.cursor.skip fun x => x == ' ' || (q.inFlow && x == '\t')
    if c.peek = '#' then
      let (comment, stop) := readComment c
      (some comment, { q with cursor := stop }.allowKeyInBlock)
    else match c.afterBreak? with
      | none => (none, { q with cursor := c })
      | some after =>
        let q := { q with cursor := after }.allowKeyInBlock
        if after.peek = '\n' then
          let (lines, stop) := readEmptyLines (after.rest.length + 1) after
          let text := if stop.peek = '#' then cutAfterBreak lines else lines
          (some ⟨text, after.line, after.column⟩, { q with cursor := stop })
        else skipBlanks fuel q

/-- Skips to the next token from here. -/
def toNext (q : Queue) : Option Comment × Queue :=
  let q := q.skipMark
  skipBlanks (q.cursor.rest.length + 1) q

/-- Skips all blanks and comments, which are put behind a text, indented as they were. -/
def skipAll : Nat → List Char → Queue → List Char × Queue
  | 0, text, q => (text, q)
  | fuel + 1, text, q => match q.toNext with
    | (none, q) => (text, q)
    | (some c, q) => skipAll fuel (text ++ List.replicate c.column ' ' ++ c.text) q

/-! ## The tokens -/

/-- The end of the text. -/
def fetchEnd (q : Queue) : Except Failure Queue := do
  let q ← (q.unwind (-1)).dropKey
  let q := { q with keyAllowed := false, keys := [], done := true }
  pure (q.push (markAt q.cursor .streamEnd))

/-- A directive. -/
def fetchDirective (q : Queue) : Except Failure Queue := do
  let q ← (q.unwind (-1)).dropKey
  let (d, stop, here) ← readDirective q.oldVersion q.cursor
  let version := match d with
    | .version major minor => some (major, minor)
    | _ => q.version
  pure { q.pushTo (.directive d) stop with keyAllowed := false, version := version, cursor := here }

/-- A mark at the start or end of a document. -/
def fetchSeparator (q : Queue) (x : Lexeme) : Except Failure Queue := do
  let q ← (q.unwind (-1)).dropKey
  pure ({ q with keyAllowed := false }.pushTo x (q.cursor.advance 3))

/-- The opening mark of a flow collection. -/
def fetchFlowStart (q : Queue) (x : Lexeme) : Except Failure Queue := do
  let mark := q.cursor.peek
  let q ← q.saveKey
  pure ({ q with flow := mark :: q.flow, keyAllowed := true }.pushTo x q.cursor.next)

/-- The closing mark of a flow collection. -/
def fetchFlowEnd (q : Queue) (x : Lexeme) : Except Failure Queue := do
  let q ← q.dropKey
  pure ({ q with flow := q.flow.drop 1, keyAllowed := false }.pushTo x q.cursor.next)

/-- The comma in a flow collection. -/
def fetchFlowEntry (q : Queue) : Except Failure Queue := do
  let q ← { q with keyAllowed := true }.dropKey
  pure (q.pushTo .flowEntry q.cursor.next)

/-- Opens a block collection at the cursor if that is deeper than the current one. -/
def openBlock (q : Queue) (x : Lexeme) : Queue :=
  match q.deepen q.cursor.column with
  | some q => q.push (markAt q.cursor x)
  | none => q

/-- The mark of an item of a block sequence. -/
def fetchBlockEntry (q : Queue) : Except Failure Queue := do
  if !q.inFlow && !q.keyAllowed then failAt .misplacedEntry q.cursor
  else
    let q := if q.inFlow then q else q.openBlock .blockSequenceStart
    let q ← { q with keyAllowed := true }.dropKey
    pure (q.pushTo .blockEntry q.cursor.next)

/-- The mark of a key. -/
def fetchKey (q : Queue) : Except Failure Queue := do
  if !q.inFlow && !q.keyAllowed then failAt .misplacedKey q.cursor
  else
    let q := if q.inFlow then q else q.openBlock .blockMappingStart
    let q ← { q with keyAllowed := !q.inFlow }.dropKey
    pure (q.pushTo .key q.cursor.next)

/-- Puts a token before the one with a number. -/
def insertAt (q : Queue) (number : Nat) (t : Token) : Queue :=
  let n := number - q.taken
  { q with tokens := q.tokens.take n ++ t :: q.tokens.drop n }

/-- The mark of a value: after a key that was remembered, whose token is put before it now, or
after one with a mark of its own. -/
def fetchValue (q : Queue) : Except Failure Queue := do
  match q.keyHere? with
  | some k =>
    let mark (x : Lexeme) : Token := ⟨x, k.index, k.line, k.index, k.line, none⟩
    let q := q.forgetKey.insertAt k.number (mark .key)
    let q := if q.inFlow then q else match q.deepen k.column with
      | some q => q.insertAt k.number (mark .blockMappingStart)
      | none => q
    pure ({ q with keyAllowed := false }.pushTo .value q.cursor.next)
  | none =>
    if !q.inFlow && !q.keyAllowed then failAt .misplacedValue q.cursor
    else
      let q := if q.inFlow then q else q.openBlock .blockMappingStart
      let q ← { q with keyAllowed := !q.inFlow }.dropKey
      pure (q.pushTo .value q.cursor.next)

/-- An anchor. -/
def fetchAnchor (q : Queue) : Except Failure Queue := do
  let q ← q.saveKey
  let (name, stop) ← readAnchorName q.cursor
  pure ({ q with keyAllowed := false }.pushTo (.anchor name) stop)

/-- An alias. -/
def fetchAlias (q : Queue) : Except Failure Queue := do
  let q ← q.saveKey
  let (name, stop) ← readAnchorName q.cursor
  pure ({ q with keyAllowed := false }.pushTo (.alias name) stop)

/-- A tag. -/
def fetchTag (q : Queue) : Except Failure Queue := do
  let q ← q.saveKey
  let (tag, stop) ← readTag q.oldVersion q.cursor
  pure ({ q with keyAllowed := false }.pushTo (.tag tag) stop)

/-- A block scalar; a key may follow it. The comment in its header stands before it, and the blank
lines behind it, with comments after them, stand behind it. -/
def fetchBlock (q : Queue) (style : ScalarStyle) : Except Failure Queue := do
  let q ← { q with keyAllowed := true }.dropKey
  let start := q.cursor
  let b ← readBlock (style == .folded) q.indent start
  let (trailing, q) :=
    if b.trailing.isEmpty then ([], { q with cursor := b.here })
    else skipAll (b.here.rest.length + 1) b.trailing { q with cursor := b.here }
  let before := b.header.map fun text => [Remark.header text]
  let after := if trailing.isEmpty then none
    else some (Comment.mk trailing b.stop.line b.stop.column)
  let comments := if before.isNone && after.isNone then none else some ⟨after, before, none⟩
  pure (q.push ⟨.scalar b.text style, start.index, start.line, b.stop.index, b.stop.line, comments⟩)

/-- A quoted scalar. -/
def fetchQuoted (q : Queue) (double : Bool) : Except Failure Queue := do
  let q ← q.saveKey
  let (text, stop) ← readQuoted double q.cursor
  let style := if double then ScalarStyle.doubleQuoted else .singleQuoted
  pure ({ q with keyAllowed := false }.pushTo (.scalar text style) stop)

/-- A plain scalar. Empty lines after it stand behind it like a comment. -/
def fetchPlain (q : Queue) : Except Failure Queue := do
  let q ← q.saveKey
  let start := q.cursor
  let p := readPlain q.inFlow q.oldVersion (q.indent + 1) start
  let comments := if p.blanks.head? = some '\n' then
      some ⟨some ⟨p.blanks ++ ['\n'], start.line, start.column⟩, none, none⟩
    else none
  pure ({ q with keyAllowed := p.lineEnded, cursor := p.here }.push
    ⟨.scalar (String.ofList p.text.reverse) .plain, start.index, start.line, p.stop.index,
      p.stop.line, comments⟩)

/-- A colon here is the mark of a value. In a flow sequence, and after the mark of another value in
a flow mapping, a gap has to follow it, as in a block. -/
def isValueMark (q : Queue) : Bool :=
  let gapAfter := isGap (q.cursor.peekAt 1)
  match q.flow with
  | [] => gapAfter
  | opening :: _ =>
    if q.oldVersion then true
    else if opening == '[' then gapAfter
    else match q.tokens.getLast? with
      | some t => t.lexeme != .value || gapAfter
      | none => true

/-- A plain scalar may start here. -/
def startsPlain (q : Queue) : Bool :=
  let x := q.cursor.peek
  let after := q.cursor.peekAt 1
  if !(isGap x || isBreak x || isOneOf "-?:,[]\x7b\x7d#&*!|>'\"%@`" x) then true
  else if !q.oldVersion && x == ':' && q.inFlow && !isSpaceOrTab after then true
  else !isGap after && (x == '-' || (!q.inFlow && (x == '?' || x == ':')))

/-- The token that starts here, if any starts with this character. -/
def fetchStart (q : Queue) : Except Failure Queue :=
  let c := q.cursor
  let atMargin := c.column == 0
  let gapAfter := isGap (c.peekAt 1)
  if c.rest.isEmpty then q.fetchEnd
  else if c.peek == '%' && atMargin then q.fetchDirective
  else if atMargin && c.atSeparatorOf '-' then q.fetchSeparator .documentStart
  else if atMargin && c.atSeparatorOf '.' then q.fetchSeparator .documentEnd
  else if c.peek == '[' then q.fetchFlowStart .flowSequenceStart
  else if c.peek == '\x7b' then q.fetchFlowStart .flowMappingStart
  else if c.peek == ']' then q.fetchFlowEnd .flowSequenceEnd
  else if c.peek == '\x7d' then q.fetchFlowEnd .flowMappingEnd
  else if c.peek == ',' then q.fetchFlowEntry
  else if c.peek == '-' && gapAfter then q.fetchBlockEntry
  else if c.peek == '?' && (q.inFlow || gapAfter) then q.fetchKey
  else if c.peek == ':' && q.isValueMark then q.fetchValue
  else if c.peek == '*' then q.fetchAlias
  else if c.peek == '&' then q.fetchAnchor
  else if c.peek == '!' then q.fetchTag
  else if c.peek == '|' && !q.inFlow then q.fetchBlock .literal
  else if c.peek == '>' && !q.inFlow then q.fetchBlock .folded
  else if c.peek == '\'' then q.fetchQuoted false
  else if c.peek == '"' then q.fetchQuoted true
  else if q.startsPlain then q.fetchPlain
  else failAt (.noToken c.peek) c

/-- The next token or comment, all of the text being there. -/
def fetchNext (q : Queue) : Except Failure Queue :=
  match q.toNext with
  | (some c, q) => .ok (q.push (markAt q.cursor (.comment { c with text := trimSpaces c.text })))
  | (none, q) => do
    let q ← q.dropStale
    (q.unwind q.cursor.column).fetchStart

/-- Reads on to the next token or comment. One character more has to be there than has been read, so
a character that the text may not hold is found out before its piece is reached. -/
def fetch (q : Queue) : Except Failure Queue :=
  match q.intruder with
  | none => q.fetchNext
  | some (start, c) =>
    let refused : Except Failure Queue := .error (.problem (.unacceptableCharacter c.toNat) none)
    let comesTo (index : Nat) : Bool := start ≤ index + 1
    if comesTo q.cursor.index then refused
    else match q.fetchNext with
      | .ok q' => if comesTo q'.cursor.index then refused else .ok q'
      | .error (.problem p (some place)) =>
        if comesTo place then refused else .error (.problem p (some place))
      | .error f => .error f

/-! ## Taking tokens -/

/-- The comment that a token is. -/
def comment? (t : Token) : Option Comment :=
  match t.lexeme with
  | .comment c => some c
  | _ => none

/-- Without the token after `n` others. -/
def remove (q : Queue) (n : Nat) : Queue :=
  { q with tokens := q.tokens.take n ++ q.tokens.drop (n + 1), taken := q.taken + 1 }

/-- Changes the front token. -/
def modifyFront (q : Queue) (f : Token → Token) : Queue :=
  match q.tokens with
  | t :: rest => { q with tokens := f t :: rest }
  | [] => q

/-- Takes a comment at the front away, and puts it to others. -/
def dropFrontComment (found : List Remark) (q : Queue) : List Remark × Queue :=
  match q.tokens.head?.bind comment? with
  | some c => (found ++ [.comment c], q.remove 0)
  | none => (found, q)

/-- The front token may still turn out to be a key, or there is none. -/
def needsMore (q : Queue) : Except Failure (Bool × Queue) :=
  if q.done then .ok (false, q)
  else if q.tokens.isEmpty then .ok (true, q)
  else do
    let q ← q.dropStale
    let least := (q.keys.map (·.2.number)).min?
    pure (least == some q.taken, q)

/-- Reads on until the front token is settled, and collects the comments before it. -/
def settle : Nat → List Remark → Queue → Except Failure (List Remark × Queue)
  | 0, found, q => .ok (found, q)
  | fuel + 1, found, q => do
    let (more, q) ← q.needsMore
    if more then
      let q ← q.fetch
      let (found, q) := q.dropFrontComment found
      settle fuel found q
    else pure (found, q)

/-- Comments that were found before the front token belong to it. -/
def ownComments (found : List Remark) (q : Queue) : Except Failure Queue :=
  match found, q.tokens with
  | [], _ => .ok q
  | _, [] => .ok q
  | _, t :: rest => do
    let comments ← Comments.putBefore found t.comments
    pure { q with tokens := { t with comments := some comments } :: rest }

/-- The queue with a settled front token, and one token after it. -/
def prepare (q : Queue) : Except Failure Queue := do
  if q.tokens.isEmpty then pure q
  else
    let (found, q) := q.dropFrontComment []
    let (found, q) ← settle (2 * q.cursor.rest.length + 8) found q
    let q ← q.ownComments found
    if !q.done && decide (q.tokens.length < 2) then q.fetch else pure q

/-- The prepared queue, from which keys that cannot be completed any more are gone. -/
def ready (q : Queue) : Except Failure Queue := do
  let q ← q.prepare
  q.prepare

/-- Takes the comments behind the front token away, reading on after each. They make one comment. -/
def takeComments : Nat → Comment → Queue → Except Failure (Comment × Queue)
  | 0, found, q => .ok (found, q)
  | fuel + 1, found, q =>
    match q.tokens with
    | _ :: t :: _ => match comment? t with
      | some c => do
        let q ← (q.remove 1).fetch
        takeComments fuel ⟨found.text ++ List.replicate c.column ' ' ++ c.text, found.line, found.column⟩ q
      | none => .ok (found, q)
    | _ => .ok (found, q)

/-- A comment behind this token belongs to it. -/
def ownsComment (t : Token) (c : Comment) : Bool :=
  match t.lexeme with
  | .scalar _ _ => true
  | .value | .flowSequenceEnd | .flowMappingEnd => t.stopLine == c.line
  | _ => false

/-- Puts the comments behind the front token to it, if they belong to it. -/
def attachComments (q : Queue) : Except Failure Queue :=
  match q.tokens with
  | t :: u :: _ => match comment? u with
    | some c =>
      if ownsComment t c then do
        let q ← (q.remove 1).fetch
        let (found, q) ← takeComments (q.cursor.rest.length + 2) c q
        pure (q.modifyFront fun t =>
          { t with comments := some (Comments.putAfter found t.comments) })
      else .ok q
    | none => .ok q
  | _ => .ok q

/-- Takes the front token. -/
def take (q : Queue) : Except Failure (Token × Queue) := do
  let q ← q.ready
  let q ← q.attachComments
  match q.tokens with
  | t :: _ => pure (t, q.remove 0)
  | [] => pure (markAt q.cursor .streamEnd, q)

/-- The front token, left in the queue. -/
def front (q : Queue) : Except Failure (Token × Queue) := do
  let q ← q.ready
  match q.tokens with
  | t :: _ => pure (t, q)
  | [] => pure (markAt q.cursor .streamEnd, q)

end Queue

end VarsAdvisor.Yaml

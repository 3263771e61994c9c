import VarsAdvisor.Yaml.Token.Queue

/-!
# Events of a YAML text

Events tell the documents of a text in order: where a collection starts and ends, and the scalars
and aliases in between. `Grammar` takes tokens from the queue and gives one event after the other;
its goal says what has to come next, and the goals below it what comes after that.
-/

namespace VarsAdvisor.Yaml

open VarsAdvisor.Text

/-- What a node starts with: an anchor and the URI of a tag. -/
structure Properties where
  anchor : Option String
  tag : Option String
  deriving DecidableEq, Repr

/-- No anchor and no tag. -/
def Properties.none : Properties := ⟨.none, .none⟩

/-- A step in telling a text. -/
inductive EventKind where
  | streamStart
  | streamEnd
  | documentStart
  | documentEnd
  | alias (name : String)
  | scalar (p : Properties) (text : WideText) (style : ScalarStyle)
  | sequenceStart (p : Properties)
  | sequenceEnd
  | mappingStart (p : Properties)
  | mappingEnd
  deriving DecidableEq, Repr

/-- An event and the offset of its place. -/
structure Event where
  kind : EventKind
  place : Nat
  deriving DecidableEq, Repr

/-- What has to come next. -/
inductive Goal where
  | streamStart
  | implicitDocumentStart
  | documentStart
  | documentContent
  | documentEnd
  | blockNode
  | sequenceFirst
  | sequenceEntry
  | indentlessEntry
  | mappingFirst
  | mappingKey
  | mappingValue
  | flowSequenceFirst
  | flowSequenceEntry
  | flowPairKey
  | flowPairValue
  | flowPairEnd
  | flowMappingFirst
  | flowMappingKey
  | flowMappingValue
  | flowMappingEmptyValue
  | finished
  deriving DecidableEq, Repr

/-- The state of telling a text: the tokens, the goals, and what the handles of tags stand for. -/
structure Grammar where
  queue : Queue
  goal : Goal
  goals : List Goal
  handles : List (String × String)

namespace Grammar

/-- A step of the grammar. -/
abbrev Step (α : Type) := StateT Grammar (Except Failure) α

/-- The handles that every document has. -/
def standardHandles : List (String × String) :=
  [("!", "!"), ("!!", "tag:yaml.org,2002:")]

/-- The grammar at the start of a text. -/
def start (text : List Char) : Grammar :=
  ⟨Queue.start text, .streamStart, [], standardHandles⟩

/-- The next token. -/
def peek : Step Token := do
  let g ← get
  let (t, q) ← g.queue.front
  set { g with queue := q }
  pure t

/-- Takes the next token. -/
def take : Step Token := do
  let g ← get
  let (t, q) ← g.queue.take
  set { g with queue := q }
  pure t

/-- Changes the next token. -/
def modifyFront (f : Token → Token) : Step Unit :=
  modify fun g => { g with queue := g.queue.modifyFront f }

/-- Moves the comments of a token that has been taken to the next one, unless that ends the text or
starts a document. `empty` marks comments that may belong to an empty value. The token is given
without them. -/
def moveComments (empty : Bool) (t : Token) : Step Token := do
  let next ← peek
  match t.comments with
  | none => pure t
  | some c =>
    if next.lexeme = .streamEnd ∨ next.lexeme = .documentStart then pure t
    else do
      let comments ← (Comments.moveTo empty c next.comments : Except Failure Comments)
      modifyFront fun u => { u with comments := some comments }
      pure { t with comments := none }

/-- Takes the next token, and moves its comments on. -/
def takeAndMove : Step Token := do
  let t ← take
  moveComments false t

/-- The next token is one of these. -/
def nextIs (p : Lexeme → Bool) : Step Bool := do
  let t ← peek
  pure (p t.lexeme)

/-- Fails at a token. -/
def failAtToken {α : Type} (p : Problem) (t : Token) : Step α :=
  throw (.problem p (some t.start))

/-- The text asks for a version before 1.2. -/
def oldVersion : Step Bool := do
  let g ← get
  pure g.queue.oldVersion

/-- Sets the next goal. -/
def goTo (goal : Goal) : Step Unit :=
  modify fun g => { g with goal := goal }

/-- Keeps a goal for later. -/
def thenGoTo (goal : Goal) : Step Unit :=
  modify fun g => { g with goals := goal :: g.goals }

/-- Goes on to the goal that was kept last. -/
def popGoal : Step Unit :=
  modify fun g => { g with goal := g.goals.headD .finished, goals := g.goals.drop 1 }

/-- A scalar without text. -/
def emptyScalar (place : Nat) : Event :=
  ⟨.scalar .none "" .plain, place⟩

/-! ## Nodes -/

/-- The URI of a tag, if its handle is known. -/
def tagUri? (handles : List (String × String)) (t : WrittenTag) : Option String :=
  let suffix := String.ofList (unescapeSuffix t.suffix.toList)
  match t.handle with
  | none => some suffix
  | some h => (handles.lookup h).map (· ++ suffix)

/-- Checks the handle of a tag; the problem is at `place`. -/
def resolveTag (t : WrittenTag) (place : Nat) : Step String := do
  let g ← get
  match tagUri? g.handles t with
  | some uri => pure uri
  | none => throw (.problem (.undefinedHandle (t.handle.getD "")) (some place))

/-- The anchor and the tag that a node starts with, in either order, and the place of the first of
them. Comments that cannot be moved on from a tag are dropped. -/
def readProperties : Step (Properties × Option Nat) := do
  let first ← peek
  match first.lexeme with
  | .anchor name => do
    let _ ← takeAndMove
    let second ← peek
    match second.lexeme with
    | .tag t => do
      let _ ← take
      let uri ← resolveTag t second.start
      pure (⟨some name, some uri⟩, some first.start)
    | _ => pure (⟨some name, none⟩, some first.start)
  | .tag t => do
    let tag ← take
    let following ← peek
    if (tag.comments.bind fun c => following.comments.map c.overlap).getD false then pure ()
    else do
      let _ ← moveComments false tag
    let second ← peek
    match second.lexeme with
    | .anchor name => do
      let _ ← take
      let uri ← resolveTag t second.start
      pure (⟨some name, some uri⟩, some second.start)
    | _ => do
      let uri ← resolveTag t first.start
      pure (⟨none, some uri⟩, some first.start)
  | _ => pure (.none, none)

/-- An empty scalar if there is an anchor or a tag, else a failure. -/
def emptyOr (p : Properties) (place : Nat) (t : Token) : Step Event :=
  if p = .none then failAtToken (.expectedContent t.lexeme.name) t
  else do
    popGoal
    pure ⟨.scalar p "" .plain, place⟩

/-- A node. Block collections are possible if `block`, a sequence without indentation of its own if
`indentless`. -/
def node (block indentless : Bool) : Step Event := do
  let first ← peek
  match first.lexeme with
  | .alias name => do
    let _ ← take
    popGoal
    pure ⟨.alias name, first.start⟩
  | _ => do
    let (p, propertiesAt) ← readProperties
    let t ← peek
    let place := propertiesAt.getD t.start
    match t.lexeme with
    | .blockEntry =>
      if indentless then do
        modifyFront fun u =>
          { u with comments := u.comments.map fun c => { c with after := none } }
        goTo .indentlessEntry
        pure ⟨.sequenceStart p, place⟩
      else emptyOr p place t
    | .scalar text style => do
      let _ ← take
      popGoal
      pure ⟨.scalar p text style, place⟩
    | .flowSequenceStart => do
      goTo .flowSequenceFirst
      pure ⟨.sequenceStart p, place⟩
    | .flowMappingStart => do
      goTo .flowMappingFirst
      pure ⟨.mappingStart p, place⟩
    | .blockSequenceStart =>
      if block then do
        goTo .sequenceFirst
        pure ⟨.sequenceStart p, place⟩
      else emptyOr p place t
    | .blockMappingStart =>
      if block then do
        goTo .mappingFirst
        pure ⟨.mappingStart p, place⟩
      else emptyOr p place t
    | _ => emptyOr p place t

/-- A node and then `goal`, or an empty scalar at `place` if the next token ends the node. -/
def nodeThen (goal : Goal) (block indentless : Bool) (ends : Lexeme → Bool) (place : Nat) :
    Step Event := do
  if (← nextIs ends) then do
    goTo goal
    pure (emptyScalar place)
  else do
    thenGoTo goal
    node block indentless

/-! ## Documents -/

/-- Takes the marks at the end of documents. -/
def skipDocumentEnds : Nat → Step Unit
  | 0 => pure ()
  | fuel + 1 => do
    if (← nextIs (· == .documentEnd)) then do
      let _ ← take
      skipDocumentEnds fuel
    else pure ()

/-- The version of a document is one of two. -/
def checkVersion : Option (Nat × Nat) → Step Unit
  | some (major, minor) =>
    if minor = 1 ∨ minor = 2 then pure () else throw (.mishap (.version major minor))
  | none => pure ()

/-- Takes directives, after the version `asked` and the handles `handles`. -/
def readDirectives (asked : Option (Nat × Nat)) (handles : List (String × String)) :
    Nat → Step (List (String × String))
  | 0 => pure handles
  | fuel + 1 => do
    let t ← peek
    match t.lexeme with
    | .directive d => do
      let _ ← take
      match d with
      | .version major minor =>
        if asked.isSome then failAtToken .duplicateVersion t
        else if major ≠ 1 then failAtToken .incompatibleVersion t
        else readDirectives (some (major, minor)) handles fuel
      | .tag handle base =>
        if (handles.lookup handle).isSome then failAtToken (.duplicateHandle handle) t
        else readDirectives asked (handles ++ [(handle, base)]) fuel
      | .other => readDirectives asked handles fuel
    | _ => do
      checkVersion asked
      pure handles

/-- The start of a document with a mark, or the end of the text. -/
def documentStart : Step Event := do
  let g ← get
  let fuel := g.queue.cursor.rest.length + g.queue.tokens.length + 1
  skipDocumentEnds fuel
  let t ← peek
  if t.lexeme = .streamEnd then do
    let _ ← take
    goTo .finished
    pure ⟨.streamEnd, t.start⟩
  else do
    let handles ← readDirectives none [] fuel
    modify fun g => { g with handles := handles ++ standardHandles }
    let t ← peek
    if t.lexeme = .documentStart then do
      let _ ← take
      thenGoTo .documentEnd
      goTo .documentContent
      pure ⟨.documentStart, t.start⟩
    else failAtToken (.expectedDocumentStart t.lexeme.name) t

/-- The start of a document, with or without a mark. -/
def implicitDocumentStart : Step Event := do
  let t ← peek
  match t.lexeme with
  | .directive _ | .documentStart | .streamEnd => documentStart
  | _ => do
    modify fun g => { g with handles := standardHandles }
    thenGoTo .documentEnd
    goTo .blockNode
    pure ⟨.documentStart, t.start⟩

/-- Tokens with which a document has no content. -/
def endsDocument : Lexeme → Bool
  | .directive _ | .documentStart | .documentEnd | .streamEnd => true
  | _ => false

/-- The content of a document. -/
def documentContent : Step Event := do
  let t ← peek
  if endsDocument t.lexeme then do
    popGoal
    pure (emptyScalar t.start)
  else node true false

/-- The end of a document. Nothing but a comment may follow its mark on the line. -/
def documentEnd : Step Event := do
  let t ← peek
  if t.lexeme = .documentEnd then do
    let _ ← take
    let after ← peek
    if after.lexeme ≠ .streamEnd ∧ t.stopLine = after.startLine then
      failAtToken (.contentAfterDocumentEnd after.lexeme.name) after
    else do
      let old ← oldVersion
      goTo (if old then .documentStart else .implicitDocumentStart)
      pure ⟨.documentEnd, t.start⟩
  else do
    goTo .documentStart
    pure ⟨.documentEnd, t.start⟩

/-! ## Block collections -/

/-- Takes the token that ends a collection. -/
def close (kind : EventKind) : Step Event := do
  let t ← take
  popGoal
  pure ⟨kind, t.start⟩

/-- An item of a block sequence, or its end. -/
def sequenceEntry : Step Event := do
  let t ← peek
  match t.lexeme with
  | .blockEntry => do
    let _ ← takeAndMove
    nodeThen .sequenceEntry true false (fun x => x == .blockEntry || x == .blockEnd) t.stop
  | .blockEnd => close .sequenceEnd
  | x => failAtToken (.expectedBlockEnd x.name) t

/-- An item of a sequence that is not indented below its key, or its end. -/
def indentlessEntry : Step Event := do
  let t ← peek
  match t.lexeme with
  | .blockEntry => do
    let _ ← takeAndMove
    nodeThen .indentlessEntry true false
      (fun x => x == .blockEntry || x == .key || x == .value || x == .blockEnd) t.stop
  | _ => do
    popGoal
    pure ⟨.sequenceEnd, t.start⟩

/-- Tokens with which a key or a value of a block mapping is empty. -/
def endsPart (x : Lexeme) : Bool :=
  x == .key || x == .value || x == .blockEnd

/-- A key of a block mapping, or its end. Only version 1.1 requires a key before a value. -/
def mappingKey : Step Event := do
  let t ← peek
  match t.lexeme with
  | .key => do
    let _ ← takeAndMove
    nodeThen .mappingValue true true endsPart t.stop
  | .value => do
    let old ← oldVersion
    if old then failAtToken (.expectedBlockEnd t.lexeme.name) t
    else do
      goTo .mappingValue
      pure (emptyScalar t.start)
  | .blockEnd => do
    let _ ← takeAndMove
    popGoal
    pure ⟨.mappingEnd, t.start⟩
  | x => failAtToken (.expectedBlockEnd x.name) t

/-- The place of an empty value: behind its mark if the mark has kept its comments, else behind the
next token, which keeps only those before it. -/
def emptyValuePlace (mark : Token) : Step Nat := do
  if mark.comments.isSome then pure mark.stop
  else do
    let next ← peek
    modifyFront fun u =>
      { u with comments := u.comments.map fun c => ⟨none, c.before, none⟩ }
    pure next.stop

/-- A value of a block mapping. Comments behind its mark are moved on, unless a key follows. -/
def mappingValue : Step Event := do
  let t ← peek
  if t.lexeme = .value then do
    let mark ← take
    let next ← peek
    let mark ← if next.lexeme = .key then pure mark
      else moveComments (next.lexeme ≠ .value) mark
    if endsPart next.lexeme then do
      let place ← emptyValuePlace mark
      goTo .mappingKey
      pure (emptyScalar place)
    else do
      thenGoTo .mappingKey
      node true true
  else do
    goTo .mappingKey
    pure (emptyScalar t.start)

/-! ## Flow collections -/

/-- A comma, unless the collection has just been opened. -/
def separator (first : Bool) (problem : String → Problem) : Step Unit := do
  if first then pure ()
  else do
    let t ← peek
    if t.lexeme = .flowEntry then do
      let _ ← take
      pure ()
    else failAtToken (problem t.lexeme.name) t

/-- An item of a flow sequence, or its end. An item with a key is a mapping of one pair. -/
def flowSequenceEntry (first : Bool) : Step Event := do
  if (← nextIs (· == .flowSequenceEnd)) then close .sequenceEnd
  else do
    separator first .expectedSequenceMark
    let t ← peek
    match t.lexeme with
    | .key => do
      goTo .flowPairKey
      pure ⟨.mappingStart .none, t.start⟩
    | .flowSequenceEnd => close .sequenceEnd
    | _ => do
      thenGoTo .flowSequenceEntry
      node false false

/-- Tokens with which the key or value of a pair in a flow sequence is empty. -/
def endsPair (x : Lexeme) : Bool :=
  x == .flowEntry || x == .flowSequenceEnd

/-- The key of a pair in a flow sequence. -/
def flowPairKey : Step Event := do
  let t ← take
  nodeThen .flowPairValue false false (fun x => x == .value || endsPair x) t.stop

/-- The value of a pair in a flow sequence. -/
def flowPairValue : Step Event := do
  let t ← peek
  if t.lexeme = .value then do
    let _ ← take
    nodeThen .flowPairEnd false false endsPair t.stop
  else do
    goTo .flowPairEnd
    pure (emptyScalar t.start)

/-- The end of a pair in a flow sequence. -/
def flowPairEnd : Step Event := do
  goTo .flowSequenceEntry
  let t ← peek
  pure ⟨.mappingEnd, t.start⟩

/-- Tokens with which the value of a flow mapping is empty. -/
def endsFlowPart (x : Lexeme) : Bool :=
  x == .flowEntry || x == .flowMappingEnd

/-- A key of a flow mapping, or its end. -/
def flowMappingKey (first : Bool) : Step Event := do
  if (← nextIs (· == .flowMappingEnd)) then close .mappingEnd
  else do
    separator first .expectedMappingMark
    let t ← peek
    let old ← oldVersion
    match t.lexeme with
    | .key => do
      let _ ← take
      nodeThen .flowMappingValue false false (fun x => x == .value || endsFlowPart x) t.stop
    | .flowMappingEnd => close .mappingEnd
    | x =>
      if x = .value ∧ !old then do
        goTo .flowMappingValue
        pure (emptyScalar t.stop)
      else do
        thenGoTo .flowMappingEmptyValue
        node false false

/-- A value of a flow mapping. -/
def flowMappingValue : Step Event := do
  let t ← peek
  if t.lexeme = .value then do
    let _ ← take
    nodeThen .flowMappingKey false false endsFlowPart t.stop
  else do
    goTo .flowMappingKey
    pure (emptyScalar t.start)

/-- The value of a key that stands alone. -/
def flowMappingEmptyValue : Step Event := do
  goTo .flowMappingKey
  let t ← peek
  pure (emptyScalar t.start)

/-! ## All events -/

/-- The next event. -/
def next : Step Event := do
  let g ← get
  match g.goal with
  | .streamStart => do
    let t ← takeAndMove
    goTo .implicitDocumentStart
    pure ⟨.streamStart, t.start⟩
  | .implicitDocumentStart => implicitDocumentStart
  | .documentStart => documentStart
  | .documentContent => documentContent
  | .documentEnd => documentEnd
  | .blockNode => node true false
  | .sequenceFirst => do
    let _ ← take
    sequenceEntry
  | .sequenceEntry => sequenceEntry
  | .indentlessEntry => indentlessEntry
  | .mappingFirst => do
    let _ ← take
    mappingKey
  | .mappingKey => mappingKey
  | .mappingValue => mappingValue
  | .flowSequenceFirst => do
    let _ ← take
    flowSequenceEntry true
  | .flowSequenceEntry => flowSequenceEntry false
  | .flowPairKey => flowPairKey
  | .flowPairValue => flowPairValue
  | .flowPairEnd => flowPairEnd
  | .flowMappingFirst => do
    let _ ← take
    flowMappingKey true
  | .flowMappingKey => flowMappingKey false
  | .flowMappingValue => flowMappingValue
  | .flowMappingEmptyValue => flowMappingEmptyValue
  | .finished => do
    let t ← peek
    pure ⟨.streamEnd, t.start⟩

end Grammar

/-- The events of a text up to its end or the first failure, and the failure. Each event comes with
the version that the text has asked for by then. -/
def tell : Nat → Grammar → List (Event × Option (Nat × Nat)) × Option Failure
  | 0, _ => ([], none)
  | fuel + 1, g =>
    match Grammar.next.run g with
    | .error e => ([], some e)
    | .ok (e, g) =>
      if e.kind = .streamEnd then ([(e, g.queue.version)], none)
      else
        let (more, failure) := tell fuel g
        ((e, g.queue.version) :: more, failure)

/-- The events of a text. -/
def eventsOf (text : List Char) : List (Event × Option (Nat × Nat)) × Option Failure :=
  tell (8 * text.length + 32) (Grammar.start text)

end VarsAdvisor.Yaml

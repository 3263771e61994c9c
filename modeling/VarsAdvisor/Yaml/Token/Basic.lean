import VarsAdvisor.Text.Search
import VarsAdvisor.Text.WideText
import VarsAdvisor.Yaml.Problem

/-!
# Tokens of YAML

The indicators and scalars of a text, with the places where they start and end. Comments are tokens
too: they are taken out when the token before or after them is taken, to which they belong then.
-/

namespace VarsAdvisor.Yaml

open VarsAdvisor.Text

/-- How a scalar is written. -/
inductive ScalarStyle where
  | plain
  | singleQuoted
  | doubleQuoted
  | literal
  | folded
  deriving DecidableEq, Repr

/-- A directive at the start of a document. -/
inductive Directive where
  | version (major minor : Nat)
  | tag (handle base : String)
  | other
  deriving DecidableEq, Repr

/-- A tag as it is written: the suffix behind a handle, or without a handle. -/
structure WrittenTag where
  handle : Option String
  suffix : String
  deriving DecidableEq, Repr

/-- A comment, with the line breaks behind it, or empty lines alone; and where it starts. -/
structure Comment where
  text : List Char
  line : Nat
  column : Nat
  deriving DecidableEq, Repr

/-- A comment as it is shown. -/
def Comment.display (c : Comment) : String :=
  s!"CommentToken({quoted (String.ofList c.text)}, line: {c.line}, col: {c.column})"

/-- What a token is. -/
inductive Lexeme where
  | streamStart
  | streamEnd
  | directive (d : Directive)
  | documentStart
  | documentEnd
  | blockSequenceStart
  | blockMappingStart
  | blockEnd
  | flowSequenceStart
  | flowSequenceEnd
  | flowMappingStart
  | flowMappingEnd
  | blockEntry
  | flowEntry
  | key
  | value
  | anchor (name : String)
  | alias (name : String)
  | tag (t : WrittenTag)
  | scalar (text : WideText) (style : ScalarStyle)
  | comment (c : Comment)
  deriving DecidableEq, Repr

/-- The name of a token in messages. -/
def Lexeme.name : Lexeme → String
  | .streamStart => "<stream start>"
  | .streamEnd => "<stream end>"
  | .directive _ => "<directive>"
  | .documentStart => "<document start>"
  | .documentEnd => "<document end>"
  | .blockSequenceStart => "<block sequence start>"
  | .blockMappingStart => "<block mapping start>"
  | .blockEnd => "<block end>"
  | .flowSequenceStart => "["
  | .flowSequenceEnd => "]"
  | .flowMappingStart => "\x7b"
  | .flowMappingEnd => "\x7d"
  | .blockEntry => "-"
  | .flowEntry => ","
  | .key => "?"
  | .value => ":"
  | .anchor _ => "<anchor>"
  | .alias _ => "<alias>"
  | .tag _ => "<tag>"
  | .scalar _ _ => "<scalar>"
  | .comment _ => "<comment>"

/-- A remark before a token: a comment, or the one in the header of a block scalar. -/
inductive Remark where
  | comment (c : Comment)
  | header (text : List Char)
  deriving DecidableEq, Repr

/-- A remark as it is shown. -/
def Remark.display : Remark → String
  | .comment c => c.display
  | .header text => quoted (String.ofList text)

/-- The comments that belong to a token: the one behind it and those before it. If they came from
the mark of a value, the one behind the mark is kept in a third place. -/
structure Comments where
  after : Option Comment
  before : Option (List Remark)
  marked : Option (Option Comment)
  deriving DecidableEq, Repr

namespace Comments

/-- One comment behind a token, or none. -/
def displayAfter : Option Comment → String
  | some c => c.display
  | none => "None"

/-- Comments as they are shown. -/
def display (c : Comments) : String :=
  let before := match c.before with
    | some remarks => "[" ++ joined ", " (remarks.map Remark.display) ++ "]"
    | none => "None"
  let marked := match c.marked with
    | some mark => ["None", "None", displayAfter mark]
    | none => []
  "[" ++ joined ", " ([displayAfter c.after, before] ++ marked) ++ "]"

/-- Both have a comment behind the token, or both have some before it. -/
def overlap (c d : Comments) : Bool :=
  (c.after.isSome && d.after.isSome) || (c.before.isSome && d.before.isSome)

/-- Puts comments to those of the token that follows. -/
def moveTo (empty : Bool) (c : Comments) : Option Comments → Except Failure Comments
  | none => .ok (if empty then ⟨c.after, c.before, some c.after⟩ else c)
  | some d =>
    if c.overlap d then .error (.mishap (.overlap c.display d.display))
    else .ok ⟨c.after <|> d.after, c.before <|> d.before, d.marked⟩

/-- Puts a comment behind a token. -/
def putAfter (comment : Comment) : Option Comments → Comments
  | some c => { c with after := some comment }
  | none => ⟨some comment, none, none⟩

/-- Puts remarks before a token, which must not have some already. -/
def putBefore (remarks : List Remark) : Option Comments → Except Failure Comments
  | none => .ok ⟨none, some remarks, none⟩
  | some c =>
    if c.before.isSome || c.marked.isSome then .error (.mishap .assertion)
    else .ok { c with before := some remarks }

end Comments

/-- A token: the offsets where it starts and ends, the lines of both, and the comments that belong
to it. -/
structure Token where
  lexeme : Lexeme
  start : Nat
  startLine : Nat
  stop : Nat
  stopLine : Nat
  comments : Option Comments
  deriving DecidableEq, Repr

end VarsAdvisor.Yaml

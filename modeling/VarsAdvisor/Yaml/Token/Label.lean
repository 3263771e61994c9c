import VarsAdvisor.Yaml.Cursor
import VarsAdvisor.Yaml.Problem
import VarsAdvisor.Yaml.Token.Basic
import VarsAdvisor.Yaml.Token.Scalar

/-!
# Anchors, tags and directives in a YAML text
-/

namespace VarsAdvisor.Yaml

open VarsAdvisor.Text

/-- The name of an anchor or alias whose indicator is here. -/
def readAnchorName (c : Cursor) : Except Failure (String × Cursor) :=
  let c := c.next
  let name := c.span isAnchorChar
  let after := c.advance name.length
  if name.isEmpty then failAt (.expectedName c.peek) c
  else if isGap after.peek || isBreak after.peek || isOneOf "?:,[]\x7b\x7d%@`" after.peek then
    .ok (String.ofList name, after)
  else failAt (.expectedName after.peek) after

/-! ## Tags -/

/-- A character of a tag's handle. -/
def isHandleChar (c : Char) : Bool :=
  isAlphanumeric c || c == '-' || c == '_'

/-- A character of a URI. Version 1.1 leaves out the number sign. -/
def isUriChar (oldVersion : Bool) (c : Char) : Bool :=
  isAlphanumeric c || isOneOf "-;/?:@&=+$,_.!~*'()[]%" c || (!oldVersion && c == '#')

/-- The bytes that a run of escapes in a URI stands for. -/
def uriBytes : Nat → Cursor → Except Failure (List UInt8 × Cursor)
  | 0, c => .ok ([], c)
  | fuel + 1, c =>
    if c.peek = '%' then
      let d := c.next
      let digits := (d.rest.take 2).takeWhile isHex
      if digits.length < 2 then failAt (.expectedUriEscape (d.peekAt digits.length)) d
      else do
        let (more, c') ← uriBytes fuel (d.advance 2)
        pure (UInt8.ofNat (hexNumber digits) :: more, c')
    else .ok ([], c)

/-- The characters of a URI as they are written. The bytes of each run of escapes have to be
UTF-8. -/
def uriBody (oldVersion : Bool) : Nat → Cursor → Except Failure (List Char × Cursor)
  | 0, c => .ok ([], c)
  | fuel + 1, c =>
    if c.peek = '%' then do
      let (bytes, after) ← uriBytes (c.rest.length + 1) c
      match Utf8.decode bytes with
      | .error e => failAt (.malformedUri e) c
      | .ok _ =>
        let (more, c') ← uriBody oldVersion fuel after
        pure (c.rest.take (3 * bytes.length) ++ more, c')
    else if isUriChar oldVersion c.peek && !c.rest.isEmpty then do
      let (more, c') ← uriBody oldVersion fuel c.next
      pure (c.peek :: more, c')
    else .ok ([], c)

/-- A URI that is not empty. -/
def readUri (oldVersion : Bool) (c : Cursor) : Except Failure (String × Cursor) := do
  let (uri, after) ← uriBody oldVersion (c.rest.length + 1) c
  if after.index = c.index then failAt (.expectedUri c.peek) c
  else pure (String.ofList uri, after)

/-- A handle: an exclamation mark, or a name between two of them. -/
def readHandle (c : Cursor) : Except Failure (String × Cursor) :=
  if c.peek ≠ '!' then failAt (.expectedHandleMark c.peek) c
  else if c.peekAt 1 = ' ' then .ok ("!", c.next)
  else
    let name := c.next.span isHandleChar
    let after := c.next.advance name.length
    if after.peek = '!' then .ok (String.ofList ('!' :: name ++ ['!']), after.next)
    else failAt (.expectedHandleEnd after.peek) after

/-- The tag whose exclamation mark is here: between angle brackets, alone, or a suffix behind a
handle. A second mark behind the first belongs to the handle. -/
def readTag (oldVersion : Bool) (c : Cursor) : Except Failure (WrittenTag × Cursor) := do
  let (short, c) := if c.peekAt 1 = '!' then ("!!", c.next) else ("!", c)
  let (tag, after) ←
    if c.peekAt 1 = '<' then do
      let (uri, after) ← readUri oldVersion (c.advance 2)
      if after.peek = '>' then pure (WrittenTag.mk none uri, after.next)
      else failAt (.expectedTagEnd after.peek) after
    else if isGap (c.peekAt 1) then pure (WrittenTag.mk none short, c.next)
    else do
      let named := (c.next.span (fun x => !(isEnd x || x == ' '))).contains '!'
      let (handle, afterHandle) ← if named then readHandle c else pure (short, c.next)
      let (uri, after) ← readUri oldVersion afterHandle
      pure (WrittenTag.mk (some handle) uri, after)
  if isEnd after.peek || after.peek = ' ' then pure (tag, after)
  else failAt (.expectedSpace after.peek) after

/-- The characters of a suffix, an escape being the character whose number it gives. -/
def unescapeSuffix : List Char → List Char
  | '%' :: a :: b :: r => Char.ofNat (hexNumber [a, b]) :: unescapeSuffix r
  | c :: r => c :: unescapeSuffix r
  | [] => []

/-! ## Directives -/

/-- A character of the name of a directive. -/
def isDirectiveChar (c : Char) : Bool :=
  isAlphanumeric c || isOneOf "-_:." c

/-- A number of a version. -/
def readVersionNumber (c : Cursor) : Except Failure (Nat × Cursor) :=
  let digits := c.span isNumeric
  if digits.isEmpty then failAt (.expectedDigit c.peek) c
  else match parseDigits digits with
    | .error e => .error (.mishap (.numeral e))
    | .ok n => .ok (n, c.advance digits.length)

/-- A version: two numbers with a point between them. -/
def readVersion (c : Cursor) : Except Failure (Directive × Cursor) := do
  let (major, c) ← readVersionNumber (c.skip (· == ' '))
  if c.peek ≠ '.' then failAt (.expectedDigitOrPoint c.peek) c
  else
    let (minor, c) ← readVersionNumber c.next
    if isEnd c.peek || c.peek = ' ' then pure (.version major minor, c)
    else failAt (.expectedDigitOrPoint c.peek) c

/-- A handle and what it stands for. -/
def readTagDirective (oldVersion : Bool) (c : Cursor) : Except Failure (Directive × Cursor) := do
  let (handle, c) ← readHandle (c.skip (· == ' '))
  if c.peek ≠ ' ' then failAt (.expectedSpace c.peek) c
  else
    let (base, c) ← readUri oldVersion (c.skip (· == ' '))
    if isEnd c.peek || c.peek = ' ' then pure (.tag handle base, c)
    else failAt (.expectedSpace c.peek) c

/-- The directive whose percent sign is here, the cursor at its end, and the one behind its line. -/
def readDirective (oldVersion : Bool) (c : Cursor) :
    Except Failure (Directive × Cursor × Cursor) := do
  let c := c.next
  let name := c.span isDirectiveChar
  let after := c.advance name.length
  if name.isEmpty then failAt (.expectedName c.peek) c
  else if !(isEnd after.peek || after.peek = ' ') then failAt (.expectedName after.peek) after
  else
    let (d, stop, rest) ←
      if String.ofList name = "YAML" then do
        let (d, c) ← readVersion after
        pure (d, c, c)
      else if String.ofList name = "TAG" then do
        let (d, c) ← readTagDirective oldVersion after
        pure (d, c, c)
      else pure (.other, after, after.skip (fun x => !isEnd x))
    let (_, line) ← readLineRest rest
    pure (d, stop, line)

end VarsAdvisor.Yaml

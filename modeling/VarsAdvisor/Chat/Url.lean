import VarsAdvisor.Domain.Address
import VarsAdvisor.Domain.Label
import VarsAdvisor.Text.Lower
import VarsAdvisor.Text.Numeral
import VarsAdvisor.Text.Quoted
import VarsAdvisor.Text.Search
import VarsAdvisor.Text.Utf8

/-!
# URLs

A URL is read into its parts and written in one way: the scheme and the host in lower case and in
ASCII, no port that is the scheme's own, no dot segments, and characters that a part must not hold
percent-encoded. Main definitions: `Url.ofText`, `Url.text`, `Url.asBase` and `Url.endpoint`.
-/

namespace VarsAdvisor

open VarsAdvisor.Text

/-- The parts of a URL. -/
structure Url where
  scheme : List Char
  user : List Char
  host : List Char
  port : Option Int
  path : List Char
  query : Option (List Char)
  fragment : Option (List Char)
  deriving DecidableEq, Repr

/-- The forms of hosts that can be wrong. -/
inductive HostForm where
  | ipv4
  | ipv6
  | international
  deriving DecidableEq, Repr

/-- What a host of a form is called. -/
def HostForm.title : HostForm → String
  | .ipv4 => "IPv4 address"
  | .ipv6 => "IPv6 address"
  | .international => "IDNA hostname"

/-- Why a text is no URL. -/
inductive UrlError where
  | tooLong
  | partTooLong (part : String)
  | control (c : Char) (position : Nat)
  | port (text : String)
  | host (form : HostForm) (text : String)
  | relativeAuthority
  | relativeColon
  | pathStart
  deriving DecidableEq, Repr

/-- The wording. -/
def UrlError.message : UrlError → String
  | .tooLong => "URL too long"
  | .partTooLong part => s!"URL component '{part}' too long"
  | .control c position =>
    s!"Invalid non-printable ASCII character in URL, {quoted (String.singleton c)} at position {position}."
  | .port text => s!"Invalid port: {quoted text}"
  | .host form text => s!"Invalid {form.title}: {quoted text}"
  | .relativeAuthority => "Relative URLs cannot have a path starting with '//'"
  | .relativeColon => "Relative URLs cannot have a path starting with ':'"
  | .pathStart => "For absolute URLs, path must be empty or begin with '/'"

namespace Url

/-! ## Percent encoding -/

/-- A letter or digit of ASCII, or one of four marks. -/
def isUnreserved (c : Char) : Bool :=
  c.isAlphanum || c == '-' || c == '.' || c == '_' || c == '~'

/-- A visible character of ASCII, or the space. -/
def isVisible (c : Char) : Bool :=
  0x20 ≤ c.toNat && c.toNat < 0x7F

/-- A visible character of ASCII that is not one of the given. -/
def isVisibleBut (excluded : String) (c : Char) : Bool :=
  isVisible c && !excluded.toList.contains c

/-- A character that stands for itself in a path. -/
def inPath (c : Char) : Bool := isVisibleBut " \"#<>?`\x7b\x7d" c

/-- A character that stands for itself in a query. -/
def inQuery (c : Char) : Bool := isVisibleBut " \"#<>" c

/-- A character that stands for itself in a fragment. -/
def inFragment (c : Char) : Bool := isVisibleBut " \"<>`" c

/-- A character that stands for itself in the name of a user. -/
def inUser (c : Char) : Bool := isVisibleBut " \"#<>?`\x7b\x7d/;=@[\\]^|" c

/-- A character that stands for itself in a host. -/
def inHost (c : Char) : Bool :=
  isUnreserved c || "!$&'()*+,;=\"`\x7b\x7d%|\\".toList.contains c

/-- A byte behind a percent sign. -/
def encodeByte (b : UInt8) : List Char :=
  '%' :: (hexDigits 2 b.toNat).map Char.toUpper

/-- A character, percent-encoded if it does not stand for itself. -/
def encodeChar (keeps : Char → Bool) (c : Char) : List Char :=
  if keeps c then [c] else (Utf8.encodeChar c).flatMap encodeByte

/-- Two digits of base sixteen. -/
def areHexDigits (a b : Char) : Bool :=
  Domain.isHexDigit a && Domain.isHexDigit b

/-- The value of a digit of base sixteen. -/
def hexValue (c : Char) : Nat :=
  if c.isDigit then c.toNat - 48 else c.toLower.toNat - 87

/-- A text, percent-encoded. What is encoded already stays as it is. -/
def encode (keeps : Char → Bool) : List Char → List Char
  | '%' :: a :: b :: r =>
    if areHexDigits a b then '%' :: a :: b :: encode keeps r
    else encodeChar keeps '%' ++ encode keeps (a :: b :: r)
  | c :: r => encodeChar keeps c ++ encode keeps r
  | [] => []

/-! ## Paths -/

/-- Components without single points, and without the components before double points. -/
def dropDots (components : List (List Char)) : List (List Char) :=
  (components.foldl (fun acc c =>
    if c = ['.'] then acc
    else if c = ['.', '.'] then (if acc = [] ∨ acc = [[]] then acc else acc.drop 1)
    else c :: acc) []).reverse

/-- A path without dot segments. -/
def normalizePath (path : List Char) : List Char :=
  let components := splitOn '/' path
  if components.contains ['.'] || components.contains ['.', '.'] then
    join ['/'] (dropDots components)
  else path

/-- A path as it is written. Relative URLs keep their dot segments. -/
def writtenPath (isAbsolute : Bool) (path : List Char) : List Char :=
  encode inPath (if isAbsolute then normalizePath path else path)

/-- What a path must not start with. -/
def checkPath (hasScheme hasAuthority : Bool) (path : List Char) : Except UrlError Unit :=
  if hasAuthority then
    if path = [] ∨ path.head? = some '/' then .ok () else .error .pathStart
  else if hasScheme then .ok ()
  else if ['/', '/'].isPrefixOf path then .error .relativeAuthority
  else if path.head? = some ':' then .error .relativeColon
  else .ok ()

/-! ## Reading -/

/-- A text before and behind the first of a few characters, which stays with what is behind. -/
def spanTo (ends : String) (cs : List Char) : List Char × List Char :=
  cs.span fun c => !ends.toList.contains c

/-- A character of a scheme behind its first. -/
def isSchemeChar (c : Char) : Bool :=
  c.isAlphanum || c == '+' || c == '.' || c == '-'

/-- The scheme at the start of a text, and what follows its colon. -/
def splitScheme (cs : List Char) : List Char × List Char :=
  match cs with
  | ':' :: r => ([], r)
  | c :: r =>
    let (more, rest) := r.span isSchemeChar
    if c.isAlpha && rest.head? == some ':' then (c :: more, rest.drop 1) else ([], cs)
  | [] => ([], [])

/-- The authority at the start of a text, and what follows. -/
def splitAuthority (cs : List Char) : List Char × List Char :=
  match cs with
  | '/' :: '/' :: r => spanTo "/?#" r
  | _ => ([], cs)

/-- The host at the start of an authority without user, and the port behind it. -/
def splitHost (cs : List Char) : List Char × List Char :=
  let (host, rest) := match cs.head?, cutAtLast ']' cs with
    | some '[', some (inside, after) => (inside ++ [']'], after)
    | _, _ => spanTo ":@" cs
  (host, if rest.head? = some ':' then rest.drop 1 else rest)

/-- The port that a scheme has when none is given. -/
def defaultPort (scheme : List Char) : Option Int :=
  [("ftp", 21), ("http", 80), ("https", 443), ("ws", 80), ("wss", 443)].lookup
    (String.ofList scheme)

/-- Reads a port, which is left out if it is the scheme's own. -/
def readPort (scheme text : List Char) : Except UrlError (Option Int) :=
  if text = [] then .ok none
  else match parseInt (String.ofList text) with
    | .ok n => .ok (if defaultPort scheme = some n then none else some n)
    | .error _ => .error (.port (String.ofList text))

/-- Reads a host. -/
def readHost (host : List Char) : Except UrlError (List Char) :=
  let wrong (form : HostForm) : Except UrlError (List Char) :=
    .error (.host form (String.ofList host))
  if Domain.looksLikeIPv4 host then
    if Domain.isIPv4 host then .ok host else wrong .ipv4
  else if host.head? = some '[' ∧ host.getLast? = some ']' then
    let inside := (host.drop 1).dropLast
    if Domain.isIPv6 inside then .ok inside else wrong .ipv6
  else if host.all fun c => c.toNat < 0x80 then .ok (encode inHost (lower host))
  else match Domain.encodeName? (lower host) with
    | some name => .ok name
    | none => wrong .international

/-- The user and the rest of an authority. -/
def splitUser (authority : List Char) : List Char × List Char :=
  (cutAtLast '@' authority).getD ([], authority)

/-- The URL of these parts; those that are missing are empty, and so may the others be. -/
def ofParts (scheme authority path : List Char) (query fragment : Option (List Char)) :
    Except UrlError Url := do
  let (user, location) := splitUser authority
  let (hostText, portText) := splitHost location
  let user := encode inUser user
  let host ← readHost hostText
  let port ← readPort scheme portText
  let hasScheme := !scheme.isEmpty
  let hasAuthority := !user.isEmpty || !host.isEmpty || port.isSome
  checkPath hasScheme hasAuthority path
  pure ⟨lower scheme, user, host, port, writtenPath (hasScheme || hasAuthority) path,
    query.map (encode inQuery), fragment.map (encode inFragment)⟩

/-- The greatest length of a URL and of each of its parts. -/
def maxLength : Nat := 65536

/-- Reads a URL. -/
def ofChars (cs : List Char) : Except UrlError Url := do
  if maxLength < cs.length then throw .tooLong
  match cs.zipIdx.find? fun (c, _) => c.toNat < 0x80 && !isVisible c with
  | some (c, position) => throw (.control c position)
  | none => pure ()
  let (scheme, rest) := splitScheme cs
  let (authority, rest) := splitAuthority rest
  let (path, rest) := spanTo "?#" rest
  let (query, rest) := match rest with
    | '?' :: r => ((spanTo "#" r).map some id)
    | r => (none, r)
  let fragment := match rest with
    | '#' :: r => some r
    | _ => none
  ofParts scheme authority path query fragment

/-- Reads a URL. -/
def ofText (s : String) : Except UrlError Url :=
  ofChars s.toList

/-! ## Writing -/

/-- User, host and port. -/
def authority (u : Url) : List Char :=
  (if u.user.isEmpty then [] else u.user ++ ['@']) ++
    (if u.host.contains ':' then '[' :: u.host ++ [']'] else u.host) ++
    match u.port with
    | some n => ':' :: (toString n).toList
    | none => []

/-- The whole URL. -/
def text (u : Url) : String :=
  String.ofList (
    (if u.scheme.isEmpty then [] else u.scheme ++ [':']) ++
      (if u.authority.isEmpty then [] else '/' :: '/' :: u.authority) ++
      u.path ++
      (match u.query with
        | some q => '?' :: q
        | none => []) ++
      match u.fragment with
      | some f => '#' :: f
      | none => [])

/-! ## Parts of a URL as a base -/

/-- Path and query. An empty path counts as a slash. -/
def target (u : Url) : List Char :=
  (if u.path.isEmpty then ['/'] else u.path) ++ match u.query with
    | some q => '?' :: q
    | none => []

/-- The first part that is too long. -/
def checkLengths : List (String × List Char) → Except UrlError Unit
  | [] => .ok ()
  | (part, cs) :: rest =>
    if maxLength < cs.length then .error (.partTooLong part) else checkLengths rest

/-- The URL with another path and query; its other parts are read again. -/
def withTarget (u : Url) (cs : List Char) : Except UrlError Url := do
  let (path, rest) := spanTo "?" cs
  let query := if rest.isEmpty then none else some (rest.drop 1)
  checkLengths [("scheme", u.scheme), ("authority", u.authority), ("path", path),
    ("query", query.getD []), ("fragment", u.fragment.getD [])]
  ofParts u.scheme u.authority path query u.fragment

/-- The URL as the base of others: a slash ends what they are put behind. -/
def asBase (u : Url) : Except UrlError Url :=
  if u.target.getLast? = some '/' then .ok u else u.withTarget (u.target ++ ['/'])

/-- A path below a base. -/
def endpoint (u : Url) (path : List Char) : Except UrlError Url :=
  u.withTarget (u.target ++ path.dropWhile (· == '/'))

/-- The URL has a type: characters other than slashes before its first colon. -/
def hasType (u : Url) : Bool :=
  let cs := u.text.toList
  let (kind, rest) := ((cutAtLast '#' cs).map (·.1)).getD cs |>.span fun c => c != '/' && c != ':'
  !kind.isEmpty && rest.head? == some ':'

/-- The URL without a fragment that is empty. -/
def withoutEmptyFragment (u : Url) : String :=
  let cs := u.text.toList
  String.ofList (if cs.getLast? = some '#' then cs.dropLast else cs)

/-- The URL with another host. -/
def withHost (u : Url) (host : List Char) : Except UrlError Url := do
  let user := if u.user.isEmpty then [] else u.user ++ ['@']
  let host := if host.contains ':' then '[' :: host ++ [']'] else host
  let port := match u.port with
    | some n => ':' :: (toString n).toList
    | none => []
  ofParts u.scheme (user ++ host ++ port) u.path u.query u.fragment

/-! ## Users -/

/-- A text with its percent-encoded bytes decoded. -/
def decodeBytes : List Char → List UInt8
  | '%' :: a :: b :: r =>
    if areHexDigits a b then
      UInt8.ofNat (hexValue a * 16 + hexValue b) :: decodeBytes r
    else Utf8.encodeChar '%' ++ decodeBytes (a :: b :: r)
  | c :: r => Utf8.encodeChar c ++ decodeBytes r
  | [] => []

/-- A text with its percent-encoded characters decoded. -/
def decode (cs : List Char) : List Char :=
  Utf8.decodeLossy (decodeBytes cs)

/-- The name of the user and the password, if one of them is not empty. -/
def credentials? (u : Url) : Option (List Char × List Char) :=
  let (name, rest) := u.user.span (· != ':')
  let password := rest.drop 1
  if name.isEmpty && password.isEmpty then none else some (decode name, decode password)

end Url

end VarsAdvisor

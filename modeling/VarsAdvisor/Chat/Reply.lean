import VarsAdvisor.Chat.ContentCoding
import VarsAdvisor.Chat.ContentType
import VarsAdvisor.Chat.Provider
import VarsAdvisor.Chat.Status
import VarsAdvisor.Chat.Url
import VarsAdvisor.Form.Reading
import VarsAdvisor.Json.Bytes
import VarsAdvisor.Json.Display
import VarsAdvisor.Suggestion.Advice

/-!
# Replies of chat models

A reply is read in three steps: its status has to be that of an answer, its body has to be JSON, and
the JSON has to have the provider's form. `ChatFault` says what is wrong with it.
-/

namespace VarsAdvisor

open VarsAdvisor.Form VarsAdvisor.Suggestion VarsAdvisor.Text

/-- A reply to a request: its status, its headers by name, and its body. -/
structure HttpReply where
  status : Nat
  headers : List (String × String)
  body : List UInt8
  deriving DecidableEq, Repr

/-- The values of a header, whose name is given in lower case. -/
def HttpReply.header? (r : HttpReply) (name : String) : Option String :=
  match r.headers.filterMap fun (n, v) => if lowered n = name then some v else none with
  | [] => none
  | values => some (joined ", " values)

/-- Where a reply leads, if it names a place. -/
def HttpReply.location (r : HttpReply) : Option String :=
  r.header? "location"

/-- A completion with the names of the members of the reply that holds it. -/
structure ChatAnswer where
  completion : Completion
  members : List WideText
  deriving DecidableEq, Repr

/-- Why there is no answer. -/
inductive ChatFault where
  | transport (kind message : String)
  | url (e : UrlError)
  | untypedUrl (text : String)
  | redirect (e : UrlError)
  | packing (e : Compression.Flaw)
  | pieces (e : ContentType.MixedPieces)
  | unreadable (e : Charset.Unreadable)
  | keyNotAscii (first last : Nat) (c : Char)
  | unencodable
  | status (status : Nat) (url : String) (location : Option String)
  | notJson (provider : Provider) (status : Nat) (base preview : String)
  | refused (status : Nat) (said : WideText)
  | noMember (provider : Provider) (members : List WideText)
  | noAttribute (kind wanted : String)
  | notContainer (kind : String)
  | notSubscriptable (kind : String)
  | indexedText
  | indexedArray
  | noFirst
  | nesting (object : Bool)
  | form (complaints : List Complaint)

/-- A character that is no ASCII as an escape. -/
def escapedChar (c : Char) : String :=
  let n := c.toNat
  let (mark, width) := if n < 0x100 then ('x', 2) else if n < 0x10000 then ('u', 4) else ('U', 8)
  String.ofList ('\\' :: mark :: hexDigits width n)

/-- The wording. -/
def ChatFault.message : ChatFault → WideText
  | .transport _ message => message
  | .url e => e.message
  | .untypedUrl text => s!"unknown url type: {quoted text}"
  | .redirect e => s!"Invalid URL in location header: {e.message}."
  | .packing e => e.message
  | .pieces e => e.message
  | .unreadable e => e.message
  | .keyNotAscii first last c =>
    if first = last then
      s!"'ascii' codec can't encode character '{escapedChar c}' in position {first}: ordinal not in range(128)"
    else s!"'ascii' codec can't encode characters in position {first}-{last}: ordinal not in range(128)"
  | .unencodable => "surrogates not allowed"
  | .status code address location => statusMessage code address location
  | .notJson provider code base preview =>
    s!"{provider.title} returned non-JSON response (status {code}, url {base}): {preview}"
  | .refused code said => s!"API error ({code}): " ++ said
  | .noMember .ollama members =>
    s!"Unexpected Ollama response format (missing 'message' key). Got keys: {Json.displayTexts members}."
  | .noMember .compatible members =>
    s!"Unexpected API response format (missing 'choices'). Got keys: {Json.displayTexts members}."
  | .noAttribute kind wanted => s!"'{kind}' object has no attribute '{wanted}'"
  | .notContainer kind => s!"argument of type '{kind}' is not iterable"
  | .notSubscriptable kind => s!"'{kind}' object is not subscriptable"
  | .indexedText => "string indices must be integers, not 'str'"
  | .indexedArray => "list indices must be integers or slices, not str"
  | .noFirst => "0"
  | .nesting object => (Json.DecodeError.nesting object).message
  | .form complaints => summary complaints

/-! ## Forms -/

/-- The members of an object, from which a member is to be taken. -/
def membersOrFault (v : Json) : Except ChatFault (List (WideText × Json)) :=
  match v with
  | .obj members => .ok members
  | _ => .error (.noAttribute v.kindName "get")

/-- The member of a name, or another value. -/
def memberOr (members : List (WideText × Json)) (name : String) (default : Json) : Json :=
  (Json.member? members name).getD default

/-- A value, or the empty text in place of one that is null, false, zero or empty. -/
def orEmpty (v : Json) : Json :=
  if v.isTruthy then v else .str ""

/-- The answer with these parts. -/
def answerOf (content model promptTokens completionTokens : Json)
    (members : List (WideText × Json)) : Except ChatFault ChatAnswer :=
  let checked := (((((readWide content).within (.field "content")).map Completion.mk).app
    ((readWide model).within (.field "model"))).app
    ((readInt promptTokens).within (.field "prompt_tokens"))).app
    ((readInt completionTokens).within (.field "completion_tokens"))
  match checked.toExcept with
  | .ok completion => .ok ⟨completion, members.map (·.1)⟩
  | .error complaints => .error (.form complaints)

/-- The members of a reply that holds a message, for the first provider. -/
def messageHolder (data : Json) : Except ChatFault (List (WideText × Json) × Json) :=
  match data with
  | .obj members => match Json.member? members "message" with
    | some message => .ok (members, message)
    | none => .error (.noMember .ollama (members.map (·.1)))
  | .str s =>
    .error (if Text.contains s.shape "message" then .indexedText else .noAttribute "str" "keys")
  | .arr items =>
    let holds := items.any fun v => match v with
      | .str s => s == ("message" : WideText)
      | _ => false
    .error (if holds then .indexedArray else .noAttribute "list" "keys")
  | _ => .error (.notContainer data.kindName)

/-- The answer in a reply of the first provider. -/
def readOllama (model : String) (data : Json) : Except ChatFault ChatAnswer := do
  let (members, message) ← messageHolder data
  let parts ← membersOrFault message
  answerOf (orEmpty (memberOr parts "content" .null)) (memberOr members "model" (.str model))
    (memberOr members "prompt_eval_count" (.int 0)) (memberOr members "eval_count" (.int 0)) members

/-- The first of the choices, which are not empty. -/
def firstChoice (choices : Json) : Except ChatFault Json :=
  match choices with
  | .arr (first :: _) => .ok first
  | .str s => .ok (.str ⟨s.points.take 1⟩)
  | .obj _ => .error .noFirst
  | _ => .error (.notSubscriptable choices.kindName)

/-- The answer in a reply of the second provider. -/
def readCompatible (model : String) (data : Json) : Except ChatFault ChatAnswer := do
  let members ← membersOrFault data
  let choices := memberOr members "choices" .null
  if choices.isTruthy then
    let choice ← (firstChoice choices).bind membersOrFault
    let usage := memberOr members "usage" .null
    let parts ← membersOrFault (memberOr choice "message" (.obj []))
    let counts ← membersOrFault (if usage.isTruthy then usage else .obj [])
    answerOf (orEmpty (memberOr parts "content" .null)) (memberOr members "model" (.str model))
      (memberOr counts "prompt_tokens" (.int 0)) (memberOr counts "completion_tokens" (.int 0))
      members
  else throw (.noMember .compatible (members.map (·.1)))

/-- The answer in a reply's JSON. -/
def Provider.readAnswer (provider : Provider) (model : String) (data : Json) :
    Except ChatFault ChatAnswer :=
  match provider with
  | .ollama => readOllama model data
  | .compatible => readCompatible model data

/-! ## Bodies -/

/-- The reply with its body as it was before it was compressed. -/
def HttpReply.unpacked (r : HttpReply) : Except ChatFault HttpReply := do
  let codings := ContentCoding.listed ((r.header? "content-encoding").getD "")
  let body ← (ContentCoding.undoAll codings r.body).mapError ChatFault.packing
  pure { r with body }

/-- The text of a body, in the charset that the reply names. An empty body is an empty text. -/
def HttpReply.text (r : HttpReply) : Except ChatFault String :=
  if r.body.isEmpty then .ok ""
  else do
    let charset ← (ContentType.charset (r.header? "content-type")).mapError ChatFault.pieces
    let cs ← (charset.decode r.body).mapError ChatFault.unreadable
    pure (String.ofList cs)

/-- The JSON in a body; none if there is no JSON in it. -/
def HttpReply.json (r : HttpReply) : Except ChatFault (Option Json) :=
  match Json.ofBytes r.body with
  | some (.ok v) => .ok (some v)
  | some (.error (.nesting object)) => .error (.nesting object)
  | _ => .ok none

/-- The start of a text. -/
def preview (text : String) : String :=
  if text = "" then "(empty)" else String.ofList (text.toList.take 200)

/-- What a refusing reply of the second provider says. -/
def saidIn (r : HttpReply) (data : Json) : Except ChatFault WideText := do
  let members ← membersOrFault data
  let e ← membersOrFault (memberOr members "error" (.obj []))
  let text ← r.text
  pure (memberOr e "message" (.str text)).display

/-- A reply has to have the status of an answer. -/
def Provider.checkStatus (provider : Provider) (url : String) (r : HttpReply) :
    Except ChatFault Unit :=
  match provider with
  | .ollama => if isSuccess r.status then .ok () else .error (.status r.status url r.location)
  | .compatible =>
    if r.status = 200 then .ok ()
    else do
      match ← r.json with
      | some data =>
        let said ← saidIn r data
        throw (.refused r.status said)
      | none =>
        let text ← r.text
        throw (.refused r.status text)

/-- A reply that leads elsewhere has to name a URL. If it has a type and no host, it is one with the
host of the request. -/
def checkRedirect (requested : Url) (r : HttpReply) : Except ChatFault Unit := do
  match r.location with
  | none => pure ()
  | some location =>
    if redirects r.status then
      let url ← (Url.ofText location).mapError ChatFault.redirect
      if !url.scheme.isEmpty && url.host.isEmpty then
        let _ ← (url.withHost requested.host).mapError ChatFault.url
        pure ()
      else pure ()
    else pure ()

/-- A reply is taken from a URL with a type only. -/
def takeReply (requested : Url) (r : HttpReply) : Except ChatFault Unit :=
  if requested.hasType then checkRedirect requested r
  else .error (.untypedUrl requested.withoutEmptyFragment)

/-- The answer in a reply to a request at `url`. -/
def Provider.readReply (provider : Provider) (model base url : String) (r : HttpReply) :
    Except ChatFault ChatAnswer := do
  provider.checkStatus url r
  match ← r.json with
  | some data => provider.readAnswer model data
  | none =>
    let text ← r.text
    throw (.notJson provider r.status base (preview text))

end VarsAdvisor

import VarsAdvisor.Chat.Reply
import VarsAdvisor.Settings.Basic
import VarsAdvisor.Text.Base64

/-!
# Chat models

A chat model is reached over a network at its provider's address. The connection is opened with the
first request, and again with the first request after it was closed; an address that is no URL
cannot be opened, however often that is tried.
-/

namespace VarsAdvisor

open VarsAdvisor.Decimal VarsAdvisor.Suggestion VarsAdvisor.Text

/-- A chat model: its provider, the address without slashes at its end, the key if there is one, its
name, and how long an answer may take. -/
structure ChatModel where
  provider : Provider
  base : String
  key : String
  name : String
  timeout : Binary64
  deriving Repr

/-- Without slashes at the end. -/
def withoutSlashes (s : String) : String :=
  String.ofList ((s.toList.reverse.dropWhile (· == '/')).reverse)

/-- The chat model that settings name. -/
def ChatModel.ofSettings (s : Settings) : Option ChatModel :=
  s.provider.map fun provider =>
    ⟨provider, withoutSlashes s.serviceUrl, s.serviceKey, s.modelName, s.modelTimeout⟩

/-- A request over the network. -/
structure ChatRequest where
  method : String
  url : Url
  authorization : Option String
  connectTimeout : Binary64
  readTimeout : Binary64
  body : Option Json
  deriving Repr

/-- What does not come back as a reply. -/
structure TransportFault where
  kind : String
  message : String
  deriving DecidableEq, Repr

/-- A network with a state of its own. -/
abbrev Network (σ : Type) := ChatRequest → σ → Except TransportFault HttpReply × σ

/-- How often opening the connection was tried, and whether it is open. -/
structure Connection where
  opened : Nat
  isOpen : Bool
  deriving DecidableEq, Repr

/-- Never opened. -/
def Connection.fresh : Connection := ⟨0, false⟩

/-- Opens a connection that is not open; `works` tells whether that works. -/
def Connection.use (c : Connection) (works : Bool) : Connection :=
  if c.isOpen then c else ⟨c.opened + 1, works⟩

/-- Closes a connection. -/
def Connection.close (c : Connection) : Connection :=
  { c with isOpen := false }

namespace ChatModel

/-- How long opening a connection may take, in seconds. -/
def connectLimit : Binary64 := .ofInt 10

/-- The key is sent only to the second provider, and only if it is not empty. -/
def authorization (m : ChatModel) : Option String :=
  if m.provider = .compatible ∧ m.key ≠ "" then some s!"Bearer {m.key}" else none

/-- A header has to be ASCII; the fault names the first characters that are not. -/
def checkHeader (header : String) : Except ChatFault Unit :=
  let (before, rest) := header.toList.span fun c => c.toNat < 128
  match rest with
  | [] => .ok ()
  | c :: _ =>
    let wrong := rest.takeWhile fun c => 128 ≤ c.toNat
    .error (.keyNotAscii before.length (before.length + wrong.length - 1) c)

/-- The address of the model and what every request to it needs. -/
def address (m : ChatModel) : Except ChatFault Url := do
  let url ← ((Url.ofText m.base).bind Url.asBase).mapError ChatFault.url
  match m.authorization with
  | some header => checkHeader header
  | none => pure ()
  pure url

/-- What a URL with a user sends in place of the key. -/
def userAuthorization (url : Url) : Option String :=
  url.credentials?.map fun (name, password) =>
    let encoded := Base64.encode (Utf8.encode (name ++ ':' :: password))
    s!"Basic {String.ofList encoded}"

/-- The request to a path of the model. A body that cannot be sent is refused. -/
def request (m : ChatModel) (method path : String) (body : Option Json) (address : Url) :
    Except ChatFault ChatRequest := do
  let url ← (address.endpoint path.toList).mapError ChatFault.url
  if body.all Json.isSendable then
    let authorization := (userAuthorization url).or m.authorization
    pure ⟨method, url, authorization, connectLimit, m.timeout, body⟩
  else throw .unencodable

/-- The request with a prompt. -/
def promptRequest (m : ChatModel) (p : Prompt) : Url → Except ChatFault ChatRequest :=
  m.request "POST" m.provider.chatPath (some (m.provider.payload m.name p))

/-- The request that shows whether the provider is there. -/
def healthRequest (m : ChatModel) : Url → Except ChatFault ChatRequest :=
  m.request "GET" m.provider.healthPath none

/-- Takes the reply to a request: its body, and where it leads. -/
def takeFrom (r : ChatRequest) (reply : HttpReply) : Except ChatFault HttpReply := do
  let reply ← reply.unpacked
  takeReply r.url reply
  pure reply

/-- Makes a request over a connection. -/
def exchange {σ : Type} (network : Network σ) (m : ChatModel)
    (make : Url → Except ChatFault ChatRequest) (c : Connection) (s : σ) :
    Except ChatFault (ChatRequest × HttpReply) × Connection × σ :=
  match m.address with
  | .error e => (.error e, c.use false, s)
  | .ok address =>
    let c := c.use true
    match make address with
    | .error e => (.error e, c, s)
    | .ok r => match network r s with
      | (.ok reply, s) => ((takeFrom r reply).map fun reply => (r, reply), c, s)
      | (.error e, s) => (.error (.transport e.kind e.message), c, s)

/-- Asks the model. -/
def generate {σ : Type} (network : Network σ) (m : ChatModel) (p : Prompt) (c : Connection)
    (s : σ) : Except ChatFault ChatAnswer × Connection × σ :=
  match m.exchange network (m.promptRequest p) c s with
  | (.error e, c, s) => (.error e, c, s)
  | (.ok (r, reply), c, s) => (m.provider.readReply m.name m.base r.url.text reply, c, s)

/-- Faults of the network that do not say that the provider is not there. -/
def otherFaults : List String :=
  ["InvalidURL", "CookieConflict", "StreamError", "StreamConsumed", "StreamClosed",
    "ResponseNotRead", "RequestNotRead"]

/-- Whether the provider is there: the reply has status 200. -/
def isReachable : Except ChatFault (ChatRequest × HttpReply) → Except ChatFault Bool
  | .ok (_, reply) => .ok (reply.status == 200)
  | .error (.transport kind message) =>
    if otherFaults.contains kind then .error (.transport kind message) else .ok false
  | .error (.packing _) | .error (.redirect _) => .ok false
  | .error e => .error e

/-- Asks whether the provider is there. -/
def health {σ : Type} (network : Network σ) (m : ChatModel) (c : Connection) (s : σ) :
    Except ChatFault Bool × Connection × σ :=
  let (result, c, s) := m.exchange network m.healthRequest c s
  (isReachable result, c, s)

end ChatModel

end VarsAdvisor

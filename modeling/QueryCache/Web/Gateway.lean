import QueryCache.Failure
import QueryCache.Json.Reader
import QueryCache.Request
import QueryCache.Text.Base64
import QueryCache.Web.Url
/-!
# Gateways

A gateway carries requests to a server over HTTP.  It knows the server's base address, below
which all paths lie, and the token that shows who asks.  What the server does is a function
given to it, from a message and the state of the world to an answer and the next state.

A server that answers with status 401 does not accept the token any more.  If there is a way
to renew it, that is tried once: with a new token the request is sent once more, and the
gateway keeps the token; if there is none to be had, the first refusal stands.
-/

namespace QueryCache.Web

/-- A request as it goes over the wire.  A body is always JSON. -/
structure Message where
  method : Method
  url : Url
  authorization : Option String
  body : Option Json
deriving DecidableEq, Repr

/-- A message as the server knows it, which reads the text of the body. -/
def Message.received (m : Message) : Message :=
  { m with body := m.body.bind fun v => Json.read? v.text }

/-- What comes back. -/
inductive Answer where
  | response (status : Nat) (body : String)
  /-- No connection, or one that broke before the answer was complete. -/
  | broken
deriving DecidableEq, Repr

/-- What is known of a server that sends no complete answer. -/
def noAnswer : Failure := .unreachable "Failed to reach the server"

/-- What an answer says.  A success without a body, or with one that is not JSON, brings
null. -/
def Answer.outcome : Answer → Except Failure Json
  | broken => .error noAnswer
  | response status body =>
    let said := Json.read? body
    if 200 ≤ status ∧ status < 300 then .ok (said.getD .null) else .error (.refused status said)

/-- Whether an outcome says that the token is not accepted. -/
def isUnauthorized : Except Failure Json → Bool
  | .error (.refused 401 _) => true
  | _ => false

structure Gateway where
  base : Url
  token : Option String
deriving DecidableEq, Repr

namespace Gateway

variable {σ : Type}

/-- A text without the slashes at its end. -/
def dropTrailingSlashes (s : String) : List Char :=
  (s.toList.reverse.dropWhile (· == '/')).reverse

/-- A gateway to the server at an address.  The base gets exactly one slash at its end, so that
paths continue it. -/
def openAt (address : String) (token : Option String) : Except UrlError Gateway := do
  let base ← Url.read (String.ofList (dropTrailingSlashes address ++ ['/']))
  pure ⟨base, token⟩

/-- What is said of a base address that is none. -/
def badBaseText (e : UrlError) : String := "invalid base url: " ++ e.text

/-- Where a request goes: its path below the base, slashes in front of it left out. -/
def urlFor (g : Gateway) (r : Request) : Except UrlError Url := do
  let url ← g.base.join (String.ofList (r.path.toList.dropWhile (· == '/')))
  pure (url.withParameters r.query)

/-- Whether a token can be sent: a header line has no controls but tabs. -/
def isSendable (token : String) : Bool :=
  token.toList.all fun c => c == '\t' || !isControl c

/-- The credentials that an address carries, as they are sent. -/
def credentials (url : Url) : Option String := do
  let a ← url.authority
  if a.user = [] ∧ a.password = [] then none
  else some ("Basic " ++ String.ofList (Text.base64
    (unescape a.user ++ ':'.toNat.toUInt8 :: unescape a.password)))

/-- The message for a request, if it can be sent at all. -/
def message (g : Gateway) (r : Request) : Except Failure Message :=
  match g.urlFor r with
  | .error e => .error (.unreachable ("Invalid request path " ++ r.path ++ ": " ++ e.text))
  | .ok url =>
    if url.isHttp ∧ g.token.all isSendable then
      let bearer := g.token.map ("Bearer " ++ ·)
      .ok ⟨r.method, url, bearer <|> credentials url, r.body⟩
    else .error noAnswer

/-- Sends a request once. -/
def execute (serve : Message → σ → Answer × σ) (g : Gateway) (r : Request) (s : σ) :
    Except Failure Json × σ :=
  match g.message r with
  | .error f => (.error f, s)
  | .ok m =>
    let (answer, s) := serve m s
    (answer.outcome, s)

/-- Carries out what brings an outcome, and once more with a new token if the old one is not
accepted and can be renewed.  `keep` puts a token where the next execution finds it. -/
def withRenewal {τ : Type} (execute : τ → Except Failure Json × τ)
    (renew : Option (τ → Except Failure String × τ)) (keep : String → τ → τ) (t : τ) :
    Except Failure Json × τ :=
  let (first, t) := execute t
  match renew with
  | some renew =>
    if isUnauthorized first then match renew t with
      | (.ok token, t) => execute (keep token t)
      | (.error _, t) => (first, t)
    else (first, t)
  | none => (first, t)

/-- Sends a request once from a gateway with its world. -/
def executeIn (serve : Message → σ → Answer × σ) (r : Request) (line : Gateway × σ) :
    Except Failure Json × Gateway × σ :=
  let (outcome, s) := line.1.execute serve r line.2
  (outcome, line.1, s)

/-- Renews the token in the gateway's world. -/
def renewIn (renew : σ → Except Failure String × σ) (line : Gateway × σ) :
    Except Failure String × Gateway × σ :=
  let (outcome, s) := renew line.2
  (outcome, line.1, s)

/-- The gateway with another token. -/
def keepToken (token : String) (line : Gateway × σ) : Gateway × σ :=
  ({ line.1 with token := some token }, line.2)

/-- Sends a request, and once more with a new token if the old one is not accepted and can be
renewed. -/
def send (serve : Message → σ → Answer × σ) (renew : Option (σ → Except Failure String × σ))
    (g : Gateway) (r : Request) (s : σ) : Except Failure Json × Gateway × σ :=
  withRenewal (executeIn serve r) (renew.map renewIn) keepToken (g, s)

end Gateway

end QueryCache.Web

/-
One call to one backend.

A call is kept whole so that it can be made again.  For each backend it is addressed
anew: headers that only concern the connection it came in on are left out, and so is
every credential of the caller.  An attempt fails if the request cannot be built, if
nothing comes in time, if the connection fails, or if the backend says that it is at
fault itself; any other response is the backend's answer.
-/
import ModelGateway.Credential.Gate
import ModelGateway.Http.Message

namespace ModelGateway

/-- A call of a caller. -/
structure Call where
  model : String
  method : String
  /-- The path behind the API base. -/
  path : String
  query : Option String := none
  headers : Headers := []
  body : ByteArray := ByteArray.empty

/-- The headers that concern one connection only and are not passed on. -/
def connectionHeaders : List String := [
  "host", "content-length", "connection", "keep-alive", "proxy-authenticate",
  "proxy-authorization", "te", "trailer", "transfer-encoding", "upgrade"]

/-- The headers of a response that are not passed back. -/
def responseConnectionHeaders : List String := ["connection", "transfer-encoding", "keep-alive"]

/-- Why a request for a backend cannot be built. -/
inductive Unbuildable
  | host
  | credential
  | target (cause : Uri.Error)
deriving DecidableEq, Repr

/-- The wording of an error. -/
def Unbuildable.message : Unbuildable → String
  | host => HeaderValue.refusal
  | credential => "invalid backend credential: " ++ HeaderValue.refusal
  | target cause => cause.message

/-- Why a backend did not answer. -/
inductive AttemptError
  | late (limit : Nat)
  | transport (reason : String)
  | status (status : Status)
  | unbuildable (cause : Unbuildable)
deriving DecidableEq, Repr

/-- The wording of an error. -/
def AttemptError.message : AttemptError → String
  | late limit => "timed out after " ++ toString limit ++ "ms"
  | transport reason => "transport error: " ++ reason
  | status s => "backend returned " ++ s.write
  | unbuildable cause => "could not build request: " ++ cause.message

/-! ### Requests -/

/-- The host of an address, and its port unless the scheme implies it. -/
def Url.hostAndPort? (u : Url) : Option String :=
  u.host?.map fun host => match u.port? with
    | some port => host ++ ":" ++ toString port.toNat
    | none => host

/-- The headers with the host that an address names. -/
def Headers.forHost (h : Headers) (url : Url) : Except Unbuildable Headers :=
  match url.hostAndPort? with
  | none => .ok h
  | some host =>
    match HeaderValue.ofText? host with
    | some value => .ok (h.set "host" value)
    | none => .error .host

namespace Call

/-- The request that makes a call to an endpoint. -/
def requestFor (c : Call) (e : Endpoint) : Except Unbuildable Request := do
  let url := e.callUrl c.path c.query
  let headers ← (c.headers.without connectionHeaders).forHost url
  let (headers, told) := headers.forCredential e.credential
  if told then
    let uri ← (Uri.parse url.render).mapError .target
    .ok { method := c.method, uri, headers, body := c.body }
  else .error .credential

end Call

/-! ### Attempts -/

/-- What there is of a reply for a client that waits so long, and how long it waits: what takes
exactly as long still counts. -/
def Reply.within (r : Reply) (limit : Nat) : Nat × Option (Except String Response) :=
  if r.delay ≤ limit then (r.delay, some r.outcome) else (limit, none)

/-- A candidate and the occasion on which it is attempted. -/
structure Turn extends Occasion where
  candidate : Endpoint

/-- How an attempt went. -/
structure Attempt where
  /-- The request that was sent, if one could be built. -/
  sent : Option Sent
  /-- When it ended. -/
  ended : Nat
  outcome : Except AttemptError Response

/-- What is made of a reply. -/
def judge (limit : Nat) : Option (Except String Response) → Except AttemptError Response
  | none => .error (.late limit)
  | some (.error reason) => .error (.transport reason)
  | some (.ok response) =>
    if response.status.isServerError then .error (.status response.status)
    else .ok { response with headers := response.headers.without responseConnectionHeaders }

/-- Make a call to a candidate whose turn it is, and wait so long for the answer. -/
def Call.attempt (c : Call) (net : Network) (limit : Nat) (t : Turn) : Attempt :=
  match c.requestFor t.candidate with
  | .error cause => { sent := none, ended := t.instant, outcome := .error (.unbuildable cause) }
  | .ok request =>
    let (waited, reply) := (net.reply t.toOccasion request).within limit
    { sent := some ⟨t.toOccasion, request⟩, ended := t.instant + waited,
      outcome := judge limit reply }

end ModelGateway

/-
A gateway and the calls it makes for others.

A call passes five stages: the caller is checked, the body is read, the model is
found, the endpoints that serve it are looked up, and only then is a backend
contacted.  The first stage that fails decides the answer, and up to the last one
nothing is sent and no turn is taken.
-/
import ModelGateway.Fanout.Policy
import ModelGateway.Gateway.Model
import ModelGateway.Registry.Basic
import ModelGateway.StaticBackends

namespace ModelGateway

/-- A gateway at a moment. -/
structure Gateway where
  registry : Registry
  gate : Gate
  dispatch : FanoutSettings
  balancer : Balancer
deriving DecidableEq, Repr

/-- Why settings make no gateway. -/
inductive SetupError
  | backend (error : InstanceError)
  | key (error : KeyError)
deriving DecidableEq, Repr

/-- The wording of an error. -/
def SetupError.message : SetupError → String
  | backend e => e.message
  | key e => e.message

/-- A request as it comes in. -/
structure Inbound where
  method : String
  uri : Uri
  headers : Headers := []
  body : Body := {}

/-- The most bytes of a body that are kept to be sent again. -/
def maxRequestBody : Nat := 64 * 1024 * 1024

/-- What a path that is passed on begins with. -/
def apiRoot : String := "/v1"

/-- How a request was passed on. -/
structure Proxied where
  gateway : Gateway
  sent : List Sent
  ended : Nat
  answer : Except CallError Response

namespace Gateway

/-- What is asked of callers by the settings. -/
def gateOf (s : Settings) : Except KeyError Gate := do
  let cipher ← s.key?.mapM TokenCipher.ofText
  .ok { cipher, mark := s.tokenLead, requireToken := s.requireToken }

/-- The gateway that settings describe, with the backends they name. -/
def ofSettings (s : Settings) : Except SetupError Gateway := do
  let (_, registry) ← (registerInstances s.instances {}).mapError .backend
  let gate ← (gateOf s).mapError .key
  .ok { registry, gate, dispatch := s.dispatch, balancer := { balance := s.dispatch.balance } }

/-- The endpoints that serve a model. -/
def resolve (g : Gateway) (model : String) : Except CallError (List Endpoint) :=
  match g.registry.serving model with
  | [] => .error (.modelNotFound model)
  | candidates => .ok candidates

/-- The body of a request. -/
def readBody (r : Inbound) : Except CallError ByteArray :=
  (r.body.collect maxRequestBody).mapError fun reason =>
    .badRequest ("failed to read request body: " ++ reason)

/-- What a path continues with behind the API root. -/
def behindRoot (path : String) : String :=
  match Text.dropLead? apiRoot.toList path.toList with
  | some rest => String.ofList rest
  | none => path

/-- The call that a request asks for, and the endpoints that can take it. -/
def accept (g : Gateway) (r : Inbound) : Except CallError (Call × List Endpoint) := do
  let _ ← (g.gate.authenticate r.headers).mapError .unauthorized
  let body ← readBody r
  let model ← requestedModel r.headers body
  let candidates ← g.resolve model
  .ok ({ model, method := r.method, path := behindRoot r.uri.shownPath, query := r.uri.query,
         headers := r.headers, body }, candidates)

/-- Pass a request on at an instant. -/
def proxy (g : Gateway) (net : Network) (now : Nat) (r : Inbound) : Proxied :=
  match g.accept r with
  | .error e => { gateway := g, sent := [], ended := now, answer := .error e }
  | .ok (call, candidates) =>
    let (candidates, balancer) := g.balancer.order call.model candidates
    let run := call.dispatch g.dispatch net now candidates
    { gateway := { g with balancer }, sent := run.sent, ended := run.ended, answer := run.answer }

end Gateway

end ModelGateway

/-
The backends that the settings name.

Every instance is checked before the first is stored, so settings with a fault leave
the registry as it was; the fault reported is that of the first instance with one.
-/
import ModelGateway.Settings.Basic
import ModelGateway.Registry.Basic

namespace ModelGateway

/-- What is wrong with an instance. -/
inductive InstanceError
  | missingEndpoint (index : Nat)
  | invalidEndpoint (index : Nat) (endpoint : String) (error : Url.Error)
  | noModels (index : Nat) (endpoint : String)
deriving DecidableEq, Repr

/-- The wording of an error. -/
def InstanceError.message : InstanceError → String
  | missingEndpoint i => "static instance #" ++ toString i ++ " has no endpoint"
  | invalidEndpoint i endpoint e =>
    "static instance #" ++ toString i ++ " has an invalid endpoint '" ++ endpoint ++ "': " ++
      e.message
  | noModels i endpoint =>
    "static instance #" ++ toString i ++ " (" ++ endpoint ++ ") serves no models"

/-- The models of an instance: its names without the blanks around them, blank ones left out. -/
def InstanceSettings.modelSet (s : InstanceSettings) : NameSet :=
  NameSet.ofList ((s.models.map Text.trim).filter (· != ""))

/-- The endpoint of the instance at an index. -/
def InstanceSettings.toEndpoint (s : InstanceSettings) (index : Nat) :
    Except InstanceError Endpoint :=
  let text := Text.trim (s.endpoint.getD "")
  if text = "" then .error (.missingEndpoint index)
  else
    match readInstanceUrl text with
    | .error e => .error (.invalidEndpoint index text e)
    | .ok url =>
      if s.modelSet.isEmpty then .error (.noModels index text)
      else .ok {
        id := .ofStatic index
        baseUrl := url
        credential := s.credential.getD ""
        models := s.modelSet
        source := .settings }

/-- The endpoints of instances, the first of them at an index. -/
def endpointsFrom : Nat → List InstanceSettings → Except InstanceError (List Endpoint)
  | _, [] => .ok []
  | i, s :: rest => do
    let e ← s.toEndpoint i
    let more ← endpointsFrom (i + 1) rest
    .ok (e :: more)

/-- Load instances into a registry: what this comes to, which is how many there are or what is
wrong with the first that is at fault, and the registry as it is then.  Nothing is stored before
all are read. -/
def loadInstances (instances : List InstanceSettings) (r : Registry) :
    Except InstanceError Nat × Registry :=
  match endpointsFrom 0 instances with
  | .error e => (.error e, r)
  | .ok endpoints => (.ok endpoints.length, endpoints.foldl Registry.put r)

/-- What a start goes on with once instances are loaded: how many there are, and the registry.  A
start that meets a fault goes on with nothing. -/
def registerInstances (instances : List InstanceSettings) (r : Registry) :
    Except InstanceError (Nat × Registry) :=
  let (outcome, loaded) := loadInstances instances r
  outcome.map fun count => (count, loaded)

end ModelGateway

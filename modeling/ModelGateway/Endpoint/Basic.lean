/-
Endpoints: the backends that the gateway knows.

An endpoint is where to send a call, which models it serves and what it wants to be
told about who is calling.  Some are written in the settings and stay; others were
found in the cluster by a source, and belong to it.  Identity and source are plain
texts put together from their parts, the same that are shown.
-/
import ModelGateway.Text.NameSet
import ModelGateway.Url.Edit

namespace ModelGateway

/-- Where to look for pods: a namespace and a label selector. -/
structure SourceKey where
  text : String
deriving DecidableEq, Repr

/-- The key of a namespace and a selector. -/
def SourceKey.of (space selector : String) : SourceKey := ⟨space ++ "/" ++ selector⟩

/-- What tells endpoints apart. -/
structure EndpointId where
  text : String
deriving DecidableEq, Repr

/-- The identity of the settings' instance at an index. -/
def EndpointId.ofStatic (index : Nat) : EndpointId := ⟨"static/" ++ toString index⟩

/-- The identity of a pod: a pod that comes back with another address is another endpoint, and a
pod that two sources find is one endpoint for each. -/
def EndpointId.ofPod (source : SourceKey) (name ip : String) : EndpointId :=
  ⟨"pod/" ++ source.text ++ "/" ++ name ++ "/" ++ ip⟩

/-- Where an endpoint comes from. -/
inductive Source
  | settings
  | discovered (key : SourceKey)
deriving DecidableEq, Repr

/-- A source as text. -/
def Source.write : Source → String
  | settings => "static"
  | discovered key => "discovered:" ++ key.text

/-- A backend and the models it serves. -/
structure Endpoint where
  id : EndpointId
  /-- Scheme, host, port and the path that every call is made below. -/
  baseUrl : Url
  /-- The bearer credential the backend expects; empty for none. -/
  credential : String := ""
  models : NameSet
  source : Source
deriving DecidableEq, Repr

namespace Endpoint

/-- Whether an endpoint serves a model. -/
def serves (e : Endpoint) (model : String) : Bool := model ∈ e.models

/-- A path below the base: one slash between them, however many either brings. -/
def pathBelow (base rest : String) : String :=
  String.ofList (Text.dropEndWhile (· == '/') base.toList ++
    '/' :: rest.toList.dropWhile (· == '/'))

/-- Where a call goes whose path continues with `rest` behind the API base. -/
def callUrl (e : Endpoint) (rest : String) (query : Option String) : Url :=
  (e.baseUrl.withPath (pathBelow e.baseUrl.path.write rest)).withQuery query

/-- Where an endpoint lists its models. -/
def listingUrl (e : Endpoint) : Url := e.callUrl "/models" none

end Endpoint

/-- The base of an instance that is written in the settings; `/v1` stands in for a path that is
nothing but slashes. -/
def readInstanceUrl (text : String) : Except Url.Error Url := do
  let url ← Url.parse (Text.trim text)
  if url.isVerbatim then .error .unsuitableBase
  else if url.path.write.toList.all (· == '/') then .ok (url.withPath "/v1")
  else .ok url

end ModelGateway

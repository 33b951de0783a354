/-
The cluster that is asked for pods.

Pods are listed by namespace and label selector over the cluster's REST interface.
The token that speaks for the gateway is read again for every call, because the file
that holds it changes.  A cluster is either named in the settings or the one the
gateway runs in, which the environment tells.
-/
import ModelGateway.Discovery.Pod
import ModelGateway.Text.File

namespace ModelGateway

/-! ### Listings of pods -/

/-- What is asked of a pod's metadata. -/
structure PodMeta where
  name : String := ""
  space : Option String := none
  annotations : Option Annotations := none

/-- What is asked of a pod's status. -/
structure PodStatus where
  phase : Option String := none
  ip : Option String := none

/-- What is asked of a pod's metadata, in a listing. -/
def podMetaOutline : Json.Outline PodMeta where
  title := "struct ObjectMeta"
  start := {}
  fields := [
    { name := "name", required := true
      take := fun bytes m => (Json.takeText bytes).map fun (x, rest) =>
        ({ m with name := x }, rest) },
    { name := "namespace"
      take := fun bytes m => (Json.takeOptional Json.takeText bytes).map fun (x, rest) =>
        ({ m with space := x }, rest) },
    { name := "annotations"
      take := fun bytes m => (Json.takeOptional Json.takeTextMap bytes).map fun (x, rest) =>
        ({ m with annotations := x }, rest) }]

/-- What is asked of a pod's status, in a listing. -/
def podStatusOutline : Json.Outline PodStatus where
  title := "struct PodStatus"
  start := {}
  fields := [
    { name := "phase"
      take := fun bytes s => (Json.takeOptional Json.takeText bytes).map fun (x, rest) =>
        ({ s with phase := x }, rest) },
    { name := "podIP"
      take := fun bytes s => (Json.takeOptional Json.takeText bytes).map fun (x, rest) =>
        ({ s with ip := x }, rest) }]

/-- What is asked of a pod, in a listing. -/
def podOutline : Json.Outline (PodMeta × Option PodStatus) where
  title := "struct Pod"
  start := ({}, none)
  fields := [
    { name := "metadata", required := true
      take := fun bytes p => (podMetaOutline.take bytes).map fun (x, rest) => ((x, p.2), rest) },
    { name := "status"
      take := fun bytes p => (Json.takeOptional podStatusOutline.take bytes).map fun (x, rest) =>
        ((p.1, x), rest) }]

/-- What is asked of a listing of pods. -/
def podListOutline : Json.Outline (List (PodMeta × Option PodStatus)) where
  title := "struct PodList"
  start := []
  fields := [{ name := "items", take := fun bytes _ => Json.takeList podOutline.take bytes }]

/-- The pod that a listing of a namespace shows; an empty address is none. -/
def Pod.ofListed (space : String) (listed : PodMeta × Option PodStatus) : Pod :=
  let status := listed.2.getD {}
  { name := listed.1.name
    space := listed.1.space.getD space
    ip := status.ip.filter (· != "")
    phase := status.phase.getD ""
    annotations := listed.1.annotations.getD [] }

/-- The most bytes a listing of pods may have. -/
def maxPodList : Nat := 32 * 1024 * 1024

/-- How long a listing of pods may take. -/
def podListTimeout : Nat := 10000

/-- How many characters of a refusal are kept. -/
def maxRefusal : Nat := 512

/-- The pods of a namespace that a response lists. -/
def podsOfResponse (space : String) (response : Response) : Except DiscoveryError (List Pod) :=
  match response.body.collect maxPodList with
  | .error reason => .error (.api reason)
  | .ok body =>
    if response.status.isSuccess then
      match podListOutline.read (Json.textBytes body) with
      | .error e => .error (.undecodable (.json e))
      | .ok items => .ok (items.map (Pod.ofListed space))
    else
      .error (.apiStatus response.status
        (String.ofList ((Utf8.decodeForgiving body.toList).take maxRefusal)))

/-! ### Clusters -/

/-- A cluster that can be asked. -/
structure Cluster where
  server : Url
  /-- Where the gateway's token is. -/
  tokenFile : Option String := none
deriving DecidableEq, Repr

namespace Cluster

/-- Where the pods of a namespace are listed that a selector selects. -/
def podListUrl? (c : Cluster) (space selector : String) : Option Url :=
  (c.server.descend? ["api", "v1", "namespaces", space, "pods"]).map
    (·.addPair "labelSelector" selector)

/-- The headers that speak for the gateway. -/
def headers (c : Cluster) (files : Files) : Except String Headers :=
  let accept := [("accept", mediaTypeJson)]
  match c.tokenFile with
  | none => .ok accept
  | some path =>
    match files.text path with
    | .error e => .error ("failed to read token " ++ path ++ ": " ++ e.message)
    | .ok token =>
      match bearerValue? (Text.trim token) with
      | some value => .ok (accept ++ [("authorization", value)])
      | none => .error ("invalid token: " ++ HeaderValue.refusal)

/-- The request that lists pods. -/
def podsRequest (c : Cluster) (files : Files) (space selector : String) :
    Except String Request := do
  match c.podListUrl? space selector with
  | none => .error ("api server '" ++ c.server.render ++ "' cannot be a base")
  | some url =>
    let uri ← (Uri.parse url.render).mapError (·.message)
    .ok { method := "GET", uri, headers := ← c.headers files }

/-- List the pods of a namespace that a selector selects. -/
def findPods (c : Cluster) (files : Files) (net : Network) (space selector : String)
    (o : Occasion) : Inquiry (List Pod) :=
  match c.podsRequest files space selector with
  | .error reason => { ended := o, outcome := .error (.api reason) }
  | .ok request =>
    let (waited, reply) := (net.reply o request).within podListTimeout
    { sent := some ⟨o, request⟩, ended := o + waited, outcome := match reply with
      | none => .error (.api ("listing pods in '" ++ space ++ "' timed out"))
      | some (.error reason) => .error (.api reason)
      | some (.ok response) => podsOfResponse space response }

end Cluster

/-! ### Finding the cluster -/

/-- Why there is no cluster to ask. -/
inductive ClusterError
  | invalidServer (server : String) (error : Url.Error)
  | noHost
  | invalidHost (error : Url.Error)
  | unreadable (path : String) (error : FileError)
deriving DecidableEq, Repr

/-- The wording of an error. -/
def ClusterError.message (e : ClusterError) : String :=
  "kubernetes client configuration: " ++ match e with
    | invalidServer server e => "invalid api_server '" ++ server ++ "': " ++ e.message
    | noHost => "KUBERNETES_SERVICE_HOST is not set and no api_server is configured"
    | invalidHost e => e.message
    | unreadable path e => "failed to read " ++ path ++ ": " ++ e.message

/-- Where a pod finds what speaks for it. -/
def accountDirectory : String := "/var/run/secrets/kubernetes.io/serviceaccount"

/-- The variables of an environment. -/
abbrev Environment := String → Option String

/-- The cluster that the gateway runs in.  Its certificate must be there, and its token is in the
usual place unless the settings say otherwise. -/
def Cluster.around (environment : Environment) (files : Files) (tokenFile : Option String) :
    Except ClusterError Cluster :=
  match environment "KUBERNETES_SERVICE_HOST" with
  | none => .error .noHost
  | some host =>
    let port := (environment "KUBERNETES_SERVICE_PORT").getD "443"
    let host := if host.toList.contains ':' then "[" ++ host ++ "]" else host
    match Url.parse ("https://" ++ host ++ ":" ++ port) with
    | .error e => .error (.invalidHost e)
    | .ok server =>
      let certificate := accountDirectory ++ "/ca.crt"
      match files certificate with
      | none => .error (.unreadable certificate .missing)
      | some _ => .ok { server, tokenFile := tokenFile.getD (accountDirectory ++ "/token") }

/-- The cluster that the settings name, or else the one the gateway runs in. -/
def Cluster.ofSettings (s : DiscoverySettings) (environment : Environment) (files : Files) :
    Except ClusterError Cluster :=
  match s.apiServer with
  | some text =>
    match Url.parse text with
    | .error e => .error (.invalidServer text e)
    | .ok server => .ok { server, tokenFile := s.tokenFile }
  | none => Cluster.around environment files s.tokenFile

/-- The cluster that is looked at again and again, and the milliseconds between two looks; nothing
if the settings name no source or no interval, or there is no cluster to ask. -/
def Cluster.watched? (s : Settings) (environment : Environment) (files : Files) :
    Option (Cluster × Nat) :=
  match s.interval?, Cluster.ofSettings s.discovery environment files with
  | some seconds, .ok cluster => some (cluster, seconds * 1000)
  | _, _ => none

end ModelGateway

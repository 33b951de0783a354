/-
Pods and what is known of them.

A pod counts when it runs and has an address.  How to reach it stands in its
annotations, and so may its models; if they do not, it is asked.
-/
import ModelGateway.Discovery.Probe
import ModelGateway.Settings.Basic

namespace ModelGateway

/-- A pod of a cluster. -/
structure Pod where
  name : String
  space : String
  ip : Option String := none
  phase : String := ""
  annotations : Annotations := []
deriving DecidableEq, Repr

/-- Whether a pod runs. -/
def Pod.isRunning (p : Pod) : Bool := p.phase == "Running"

/-- The address of a pod that runs. -/
def Pod.address? (p : Pod) : Option String := if p.isRunning then p.ip else none

/-- The pods that run with an address, with it. -/
def addressed (pods : List Pod) : List (Pod × String) :=
  pods.filterMap fun p => p.address?.map fun ip => (p, ip)

/-- A source of pods. -/
structure PodSource where
  space : String
  selector : String
  /-- The annotation that names a pod's models. -/
  modelKey : Option String := none
  credential : String := ""
deriving DecidableEq, Repr

namespace PodSource

/-- A source as the settings describe it; an empty annotation key is none. -/
def ofSettings (s : SourceSettings) : PodSource where
  space := s.space
  selector := s.selector
  modelKey := s.modelKey.filter (· != "")
  credential := s.credential.getD ""

/-- The key of a source. -/
def key (s : PodSource) : SourceKey := .of s.space s.selector

/-- The models that a pod's annotations name. -/
def annotatedModels (s : PodSource) (p : Pod) : NameSet :=
  match s.modelKey.bind p.annotations.get? with
  | some value => readModelList value
  | none => .empty

/-- The base of a pod, as its annotations have it. -/
def baseOf (p : Pod) (ip lead : String) : Except InvalidAnnotation Url := do
  let a ← Addressing.ofAnnotations p.annotations lead
  (a.baseUrl ip).mapError fun e =>
    ⟨lead ++ "protocol", a.protocol, "invalid pod address: " ++ e.message⟩

/-- The endpoint of a pod, whose models may be missing yet. -/
def endpointOf (s : PodSource) (p : Pod) (ip : String) (base : Url) : Endpoint where
  id := .ofPod s.key p.name ip
  baseUrl := base
  credential := s.credential
  models := s.annotatedModels p
  source := .discovered s.key

/-- The endpoint of a pod, asked for its models on an occasion if its annotations name none. -/
def describe (s : PodSource) (lead : String) (ask : Url → String → Occasion → Inquiry NameSet)
    (p : Pod) (ip : String) (o : Occasion) : Inquiry Endpoint :=
  match baseOf p ip lead with
  | .error cause => { ended := o, outcome := .error (.unusable cause) }
  | .ok base =>
    let e := s.endpointOf p ip base
    if e.models.isEmpty then
      let asked := ask e.listingUrl s.credential o
      { sent := asked.sent, ended := asked.ended,
        outcome := asked.outcome.map fun models => { e with models } }
    else { ended := o, outcome := .ok e }

end PodSource

end ModelGateway

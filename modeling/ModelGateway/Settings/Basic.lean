/-
The settings of a gateway.

They name the key that callers' tokens are sealed under, the instances that always
exist, the sources to discover more, and how calls are spread and pods are probed.
Everything has a default except what a source looks for.
-/
import ModelGateway.Balancer

namespace ModelGateway

/-- An instance that always exists.  What is left out is only missed when it is loaded, so that
the message can say which instance it was. -/
structure InstanceSettings where
  endpoint : Option String := none
  credential : Option String := none
  models : List String := []
deriving DecidableEq, Repr

/-- Where and how to look for pods. -/
structure SourceSettings where
  space : String
  selector : String
  /-- The annotation that names a pod's models; without one the pod is asked. -/
  modelKey : Option String := none
  /-- The credential that every pod of this source expects. -/
  credential : Option String := none
deriving DecidableEq, Repr

/-- How the candidates of a call are tried. -/
inductive Policy
  /-- One after another, until one succeeds. -/
  | sequential
  /-- All at once, and the first success is kept. -/
  | race
deriving DecidableEq, Repr

/-- How calls are spread. -/
structure FanoutSettings where
  policy : Policy := .sequential
  attemptTimeoutSecs : UInt64 := 30
  balance : Balance := .roundRobin
deriving DecidableEq, Repr

/-- How pods are found and probed. -/
structure DiscoverySettings where
  probeTimeoutSecs : UInt64 := 5
  /-- How many probes in a row may fail before a pod that still runs is dropped. -/
  maxProbeFailures : UInt32 := 3
  /-- What the keys of the gateway's annotations begin with. -/
  annotationLead : String := "borg/"
  /-- The cluster's API, if it is not the one the gateway runs in. -/
  apiServer : Option String := none
  tokenFile : Option String := none
deriving DecidableEq, Repr

/-- The settings of a gateway. -/
structure Settings where
  authKey : Option String := none
  /-- What a token that was issued here begins with. -/
  tokenLead : String := "BORG:"
  /-- Refuse callers without such a token. -/
  requireToken : Bool := false
  /-- Seconds between discovery passes. -/
  updateInterval : Option Int64 := none
  instances : List InstanceSettings := []
  sources : List SourceSettings := []
  dispatch : FanoutSettings := {}
  discovery : DiscoverySettings := {}
deriving DecidableEq, Repr

namespace Settings

/-- The key in use: an empty one and the placeholder `EMPTY` are none. -/
def key? (s : Settings) : Option String :=
  s.authKey.filter fun k => k != "" && k != "EMPTY"

/-- The seconds between discovery passes, if there are any: the interval is positive and there is
a source to look at. -/
def interval? (s : Settings) : Option Nat :=
  match s.updateInterval with
  | some i => if 0 < i.toInt ∧ s.sources ≠ [] then some i.toInt.toNat else none
  | none => none

end Settings

end ModelGateway

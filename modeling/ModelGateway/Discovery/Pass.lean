/-
One look at every source.

The sources are looked at side by side.  Each lists its pods, describes those that
run, and brings its own part of the registry up to date as soon as it is done.  A
source whose listing fails changes nothing.

A pod that runs but cannot be asked keeps the endpoint it had, for so many passes in
a row; the count is kept per source and identity, and ends when the pod answers, goes
away or has annotations that cannot be used.  The count is a number without a bound; it
stands for a word of 32 bits, so what is said here is exact up to 2 ^ 32 - 1 passes in a
row on which one pod could not be asked.
-/
import ModelGateway.Discovery.Pod
import ModelGateway.Discovery.Window
import ModelGateway.Registry.Reconcile

namespace ModelGateway

/-- How often in a row a pod could not be asked. -/
structure Failure where
  source : SourceKey
  id : EndpointId
  count : Nat
deriving DecidableEq, Repr

/-- What passes leave behind. -/
structure Known where
  registry : Registry := {}
  failures : List Failure := []
deriving DecidableEq, Repr

/-- What came of one pod. -/
structure Finding where
  id : EndpointId
  outcome : Except DiscoveryError Endpoint

namespace Known

/-- How often in a row a pod of a source could not be asked so far. -/
def failureCount (k : Known) (source : SourceKey) (id : EndpointId) : Nat :=
  ((k.failures.find? fun f => f.source == source && f.id == id).map (·.count)).getD 0

/-- What a finding contributes: the endpoint to register, and the failure to remember. -/
def weigh (k : Known) (limit : Nat) (source : SourceKey) (f : Finding) :
    Option Endpoint × Option Failure :=
  match f.outcome with
  | .ok e => (some e, none)
  | .error (.unusable _) => (none, none)
  | .error _ =>
    let count := k.failureCount source f.id + 1
    (if count < limit then k.registry.get? f.id else none, some ⟨source, f.id, count⟩)

/-- Bring everything about a source up to date with what was found. -/
def commit (k : Known) (limit : Nat) (source : SourceKey) (findings : List Finding) :
    Known × Registry.Summary :=
  let weighed := findings.map (k.weigh limit source)
  let (registry, summary) := k.registry.reconcile source (weighed.filterMap (·.1))
  ({ registry, failures :=
      k.failures.filter (fun f => f.source ≠ source) ++ weighed.filterMap (·.2) }, summary)

end Known

/-! ### Looking at one source -/

/-- A listing of pods. -/
structure Listing where
  /-- When it was there. -/
  ended : Nat
  outcome : Except DiscoveryError (List Pod)

/-- What discovery depends on: the backends, and the listing of a source's pods asked for at an
instant. -/
structure World where
  network : Network
  list : PodSource → Nat → Listing

/-- What discovery is to do. -/
structure Discoverer where
  sources : List PodSource
  /-- How long a probe may take. -/
  probeTimeout : Nat
  annotationLead : String
  /-- How many probes in a row may fail before a pod is dropped. -/
  maxFailures : Nat
deriving DecidableEq, Repr

/-- How many pods of a source are described at once. -/
def windowWidth : Nat := 8

/-- A pod's identity and the answer it gave. -/
structure Described where
  id : EndpointId
  inquiry : Inquiry Endpoint

/-- What looking at a source came to. -/
structure Survey where
  source : PodSource
  /-- The requests to pods, in order. -/
  sent : List Sent
  ended : Nat
  outcome : Except DiscoveryError (List Finding)

namespace Discoverer

/-- What discovery is to do, by the settings. -/
def ofSettings (s : Settings) : Discoverer where
  sources := s.sources.map PodSource.ofSettings
  probeTimeout := s.discovery.probeTimeoutSecs.toNat * 1000
  annotationLead := s.discovery.annotationLead
  maxFailures := s.discovery.maxProbeFailures.toNat

/-- Describe one pod on an occasion. -/
def describe (d : Discoverer) (net : Network) (s : PodSource) (p : Pod) (ip : String)
    (o : Occasion) : Described where
  id := .ofPod s.key p.name ip
  inquiry := s.describe d.annotationLead (probe net d.probeTimeout) p ip o

/-- Describe the pods of a listing that run, from an instant on. -/
def describeAll (d : Discoverer) (net : Network) (s : PodSource) (pods : List Pod) (now : Nat) :
    List Described :=
  runWindow (·.inquiry.ended) windowWidth now <|
    (addressed pods).mapIdx fun place q start =>
      d.describe net s q.1 q.2 { instant := start, place, source := s.key }

/-- Look at a source. -/
def survey (d : Discoverer) (w : World) (now : Nat) (s : PodSource) : Survey :=
  let listing := w.list s now
  match listing.outcome with
  | .error e => { source := s, sent := [], ended := listing.ended, outcome := .error e }
  | .ok pods =>
    let described := d.describeAll w.network s pods listing.ended
    { source := s
      sent := described.filterMap (·.inquiry.sent)
      ended := described.foldl (fun n x => max n x.inquiry.ended) listing.ended
      outcome := .ok (described.map fun x => ⟨x.id, x.inquiry.outcome⟩) }

/-! ### Looking at every source -/

/-- What a source is said to have come to. -/
structure Report where
  source : PodSource
  outcome : Except DiscoveryError Registry.Summary

/-- Take in a survey. -/
def take (d : Discoverer) (k : Known) (s : Survey) : Known × Report :=
  match s.outcome with
  | .error e => (k, ⟨s.source, .error e⟩)
  | .ok findings =>
    let (k, summary) := k.commit d.maxFailures s.source.key findings
    (k, ⟨s.source, .ok summary⟩)

/-- Something that happened at an instant, and its place among what was begun together. -/
structure Dated (α : Type) where
  instant : Nat
  place : Nat
  value : α

/-- Take in surveys in the order given; gives what is known after each of them. -/
def takeAll (d : Discoverer) : Known → List (Dated Survey) → List (Dated (Known × Report))
  | _, [] => []
  | k, s :: rest =>
    let taken := d.take k s.value
    { s with value := taken } :: d.takeAll taken.1 rest

/-- How a pass went. -/
structure Pass where
  began : Nat
  ended : Nat
  /-- The requests to pods, in order. -/
  sent : List Sent
  /-- What was known after each source was done, in the order they were. -/
  stages : List (Dated (Known × Report))

/-- Look at every source from an instant on. -/
def pass (d : Discoverer) (w : World) (k : Known) (now : Nat) : Pass :=
  let surveys := d.sources.map (d.survey w now)
  let dated := surveys.mapIdx fun i s => Dated.mk s.ended i s
  { began := now
    ended := surveys.foldl (fun n s => max n s.ended) now
    sent := (surveys.flatMap (·.sent)).mergeSort fun a b => a.instant ≤ b.instant
    stages := d.takeAll k (dated.mergeSort fun a b => a.instant ≤ b.instant) }

/-- What is known after a pass that began with `k`. -/
def Pass.known (p : Pass) (k : Known) : Known :=
  ((p.stages.getLast?).map (·.value.1)).getD k

/-- What the sources came to, in their own order. -/
def Pass.reports (p : Pass) : List Report :=
  (p.stages.mergeSort fun a b => a.place ≤ b.place).map (·.value.2)

/-! ### Again and again -/

/-- Pass after pass, an interval between the end of one and the start of the next, until a pass
would begin behind the horizon; at most so many. -/
def passes (d : Discoverer) (w : World) (interval horizon : Nat) : Nat → Known → Nat → List Pass
  | 0, _, _ => []
  | count + 1, k, now =>
    if horizon < now then []
    else
      let p := d.pass w k now
      p :: d.passes w interval horizon count (p.known k) (p.ended + interval)

/-- The passes that begin up to the horizon, the first of them at once; with an interval there
is at most one for each instant. -/
def run (d : Discoverer) (w : World) (interval horizon : Nat) (k : Known) : List Pass :=
  d.passes w interval horizon (horizon + 1) k 0

end Discoverer

end ModelGateway

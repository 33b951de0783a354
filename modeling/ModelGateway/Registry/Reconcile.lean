/-
Bringing the registry up to date with one source.

A source's findings replace everything it contributed before: what it no longer
finds goes, the rest is stored again in the slots it has, and what is new comes last.
Endpoints of other sources are not its business, whether among the findings or in
the registry.
-/
import ModelGateway.Registry.Basic

namespace ModelGateway.Registry

/-- What bringing the registry up to date changed. -/
structure Summary where
  added : Nat := 0
  refreshed : Nat := 0
  removed : Nat := 0
deriving DecidableEq, Repr

/-- A summary in words. -/
def Summary.write (s : Summary) : String :=
  toString s.added ++ " added, " ++ toString s.refreshed ++ " refreshed, " ++
    toString s.removed ++ " removed"

/-- The findings that count: the source's own, and serving something. -/
def accepted (source : SourceKey) (fresh : List Endpoint) : List Endpoint :=
  fresh.filter fun e => e.source = .discovered source && !e.models.isEmpty

/-- The source's endpoints that it no longer finds. -/
def stale (r : Registry) (source : SourceKey) (kept : List Endpoint) : List EndpointId :=
  (r.endpoints.filter fun e =>
    e.source = .discovered source && !(kept.map (·.id)).contains e.id).map (·.id)

/-- Store one finding and count it. -/
def refresh (state : Registry × Summary) (e : Endpoint) : Registry × Summary :=
  let (r, s) := state
  (r.store e,
    if (r.slot? e.id).isSome then { s with refreshed := s.refreshed + 1 }
    else { s with added := s.added + 1 })

/-- Replace everything a source contributed by what it finds now. -/
def reconcile (r : Registry) (source : SourceKey) (fresh : List Endpoint) : Registry × Summary :=
  let kept := accepted source fresh
  let gone := r.stale source kept
  kept.foldl refresh (gone.foldl remove r, { removed := gone.length })

end ModelGateway.Registry

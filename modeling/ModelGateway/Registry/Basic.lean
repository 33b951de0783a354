/-
The endpoints known at a moment.

The registry keeps every endpoint in a slot whose position is given out once and for
all: replacing an endpoint keeps its slot, so the order in which callers see
endpoints does not depend on how often they are refreshed.

Beside the slots it keeps an index from each model to the positions of the endpoints
that serve it.  Looking up a model must not walk all endpoints, and the index is what
the look-up reads, so every change edits both.  A model that nothing serves has no
bucket, which makes the index also the list of models.

Positions are numbers without a bound.  The counter they come from is a word of 64 bits,
so what is said here of a registry is exact up to 2 ^ 64 endpoints that were new to it.
-/
import ModelGateway.Endpoint.Basic

namespace ModelGateway

/-- An endpoint and its position. -/
structure Slot where
  position : Nat
  endpoint : Endpoint
deriving DecidableEq, Repr

/-- The positions of the endpoints that serve a model, ascending. -/
structure Bucket where
  model : String
  positions : List Nat
deriving DecidableEq, Repr

/-- The endpoints known at a moment. -/
structure Registry where
  /-- In ascending order of position. -/
  slots : List Slot := []
  /-- In ascending order of model. -/
  index : List Bucket := []
  /-- The position of the next endpoint that is new. -/
  next : Nat := 0
deriving DecidableEq, Repr

namespace Registry

/-! ### The index -/

/-- Insert a position into an ascending list, unless it is there. -/
def insertPosition (p : Nat) : List Nat → List Nat
  | [] => [p]
  | q :: qs => if p < q then p :: q :: qs else if p = q then q :: qs else q :: insertPosition p qs

/-- Enter a position under a model. -/
def enter (p : Nat) (index : List Bucket) (model : String) : List Bucket :=
  match index with
  | [] => [⟨model, [p]⟩]
  | b :: bs =>
    if model < b.model then ⟨model, [p]⟩ :: b :: bs
    else if model = b.model then { b with positions := insertPosition p b.positions } :: bs
    else b :: enter p bs model

/-- Strike a position from under a model; a bucket that runs empty goes. -/
def strike (p : Nat) (index : List Bucket) (model : String) : List Bucket :=
  match index with
  | [] => []
  | b :: bs =>
    if b.model = model then
      match b.positions.erase p with
      | [] => bs
      | kept => { b with positions := kept } :: bs
    else b :: strike p bs model

/-- Enter a position under every model of an endpoint. -/
def enterAll (p : Nat) (e : Endpoint) (index : List Bucket) : List Bucket :=
  e.models.toList.foldl (enter p) index

/-- Strike a position from under every model of an endpoint. -/
def strikeAll (p : Nat) (e : Endpoint) (index : List Bucket) : List Bucket :=
  e.models.toList.foldl (strike p) index

/-! ### Reading -/

/-- The slot of an identity. -/
def slot? (r : Registry) (id : EndpointId) : Option Slot :=
  r.slots.find? (·.endpoint.id == id)

/-- The endpoint of an identity. -/
def get? (r : Registry) (id : EndpointId) : Option Endpoint :=
  (r.slot? id).map (·.endpoint)

/-- The endpoint at a position. -/
def at? (r : Registry) (p : Nat) : Option Endpoint :=
  (r.slots.find? (·.position == p)).map (·.endpoint)

/-- Every endpoint, in order of position. -/
def endpoints (r : Registry) : List Endpoint := r.slots.map (·.endpoint)

/-- The endpoints that serve a model, in order of position. -/
def serving (r : Registry) (model : String) : List Endpoint :=
  match r.index.find? (·.model == model) with
  | some b => b.positions.filterMap r.at?
  | none => []

/-- Every model that an endpoint serves, in ascending order. -/
def models (r : Registry) : List String := r.index.map (·.model)

/-- How many endpoints are known. -/
def size (r : Registry) : Nat := r.slots.length

/-! ### Changing -/

/-- Store an endpoint, in the slot of its identity or behind all others. -/
def store (r : Registry) (e : Endpoint) : Registry :=
  match r.slot? e.id with
  | some old =>
    { r with
      slots := r.slots.map fun s => if s.endpoint.id = e.id then { s with endpoint := e } else s
      index := enterAll old.position e (strikeAll old.position old.endpoint r.index) }
  | none =>
    { slots := r.slots ++ [⟨r.next, e⟩]
      index := enterAll r.next e r.index
      next := r.next + 1 }

/-- Store an endpoint unless it serves nothing, since it would never be called. -/
def put (r : Registry) (e : Endpoint) : Registry :=
  if e.models.isEmpty then r else r.store e

/-- Forget the endpoint of an identity. -/
def remove (r : Registry) (id : EndpointId) : Registry :=
  match r.slot? id with
  | some old =>
    { r with
      slots := r.slots.filter fun s => s.endpoint.id ≠ id
      index := strikeAll old.position old.endpoint r.index }
  | none => r

end Registry

end ModelGateway

/-
Requests and responses.

A body has arrived as bytes, and may have broken off behind them.  What a backend
does with a request is a reply: how long it takes, and then a response or the reason
there is none.  Time is counted in whole milliseconds from some start.

Backends owe nobody the same reply twice.  Two requests that say the same may be sent at
one instant, to a backend that two candidates share, and fare differently; so a reply
belongs to the occasion on which a request was sent.  The attempts of one call have each
an occasion of their own, and so have the questions of one look at a source.
-/
import ModelGateway.Endpoint.Basic
import ModelGateway.Http.Header
import ModelGateway.Http.Status
import ModelGateway.Http.Uri

namespace ModelGateway

/-- What arrived of a body. -/
structure Body where
  bytes : ByteArray := ByteArray.empty
  /-- Why it broke off, if it did. -/
  broken : Option String := none

/-- A body that is a text. -/
def Body.ofText (s : String) : Body := { bytes := s.toUTF8 }

/-- What is said of a body that is too long. -/
def Body.lengthExceeded : String := "length limit exceeded"

/-- The bytes of a body, if it is whole and has at most so many. -/
def Body.collect (b : Body) (limit : Nat) : Except String ByteArray :=
  if limit < b.bytes.size then .error Body.lengthExceeded
  else
    match b.broken with
    | some reason => .error reason
    | none => .ok b.bytes

/-- A request that goes to a backend. -/
structure Request where
  method : String
  uri : Uri
  headers : Headers
  body : ByteArray := ByteArray.empty

/-- A response. -/
structure Response where
  status : Status
  headers : Headers := []
  body : Body := {}

/-- The media type of JSON. -/
def mediaTypeJson : HeaderValue := HeaderValue.ofText "application/json"

/-- A response whose body is JSON. -/
def Response.json (status : Status) (text : String) : Response :=
  { status, headers := [("content-type", mediaTypeJson)], body := .ofText text }

/-- What comes back for a request. -/
structure Reply where
  /-- How long it takes. -/
  delay : Nat := 0
  /-- The response, or why none came. -/
  outcome : Except String Response

/-- On what occasion a request is sent: when, and as which of those that belong together, which are
the attempts of one call or the questions of one source. -/
structure Occasion where
  instant : Nat
  place : Nat := 0
  /-- The source that asks its pods; none for a call. -/
  source : Option SourceKey := none
deriving DecidableEq, Repr

/-- Where only time counts, an occasion is its instant. -/
instance : Coe Occasion Nat := ⟨Occasion.instant⟩

/-- A number is the occasion of a request that is sent alone at that instant. -/
instance (now : Nat) : OfNat Occasion now := ⟨{ instant := now }⟩

/-- The occasion behind another, at an instant. -/
def Occasion.next (o : Occasion) (instant : Nat) : Occasion :=
  { o with instant, place := o.place + 1 }

/-- What backends do with a request that is sent on an occasion. -/
structure Network where
  reply : Occasion → Request → Reply

/-- A request and the occasion on which it was sent. -/
structure Sent extends Occasion where
  request : Request

end ModelGateway

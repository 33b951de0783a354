/-
What can go wrong when looking for pods.

None of it reaches a caller.  A listing that fails leaves a source as it was, and a
pod that cannot be described is dealt with on its own.  Only annotations that cannot
be used are the pod's own fault; all else may pass.
-/
import ModelGateway.Endpoint.Addressing
import ModelGateway.Http.Message
import ModelGateway.Json.Error

namespace ModelGateway

/-- Why a body does not say what was asked. -/
inductive Undecodable
  | json (error : Json.Error)
  | emptyListing
deriving DecidableEq, Repr

/-- The wording of an error. -/
def Undecodable.message : Undecodable → String
  | json e => e.message
  | emptyListing => "model listing is empty"

/-- The wording of an error. -/
def InvalidAnnotation.message (e : InvalidAnnotation) : String :=
  "annotation " ++ e.key ++ "='" ++ e.value ++ "' is invalid: " ++ e.reason

/-- What can go wrong when looking for pods. -/
inductive DiscoveryError
  | api (reason : String)
  | apiStatus (status : Status) (body : String)
  | probe (url reason : String)
  | probeLate (url : String)
  | undecodable (cause : Undecodable)
  | unusable (cause : InvalidAnnotation)
deriving DecidableEq, Repr

/-- The wording of an error. -/
def DiscoveryError.message : DiscoveryError → String
  | api reason => "orchestration API request failed: " ++ reason
  | apiStatus status body => "orchestration API returned " ++ status.write ++ ": " ++ body
  | probe url reason => "model probe against " ++ url ++ " failed: " ++ reason
  | probeLate url => "model probe against " ++ url ++ " timed out"
  | undecodable cause => "unexpected response shape: " ++ cause.message
  | unusable cause => cause.message

/-- A question that was asked over the network, and its answer. -/
structure Inquiry (α : Type) where
  /-- The request, if one was sent. -/
  sent : Option Sent := none
  /-- When the answer was there, or was given up. -/
  ended : Nat
  outcome : Except DiscoveryError α

end ModelGateway

/-
What a caller is told when a call fails.

Whatever goes wrong behind the gateway, a caller gets one status and one error in the
shape that clients of such services expect: a message and a type.
-/
import ModelGateway.Credential.Gate
import ModelGateway.Http.Message
import ModelGateway.Json.Print

namespace ModelGateway

/-- Why a call was not answered by a backend. -/
inductive CallError
  | unauthorized (cause : AuthError)
  | badRequest (reason : String)
  | modelNotFound (model : String)
  /-- Every backend was tried; the last failure stands for all. -/
  | exhausted (model : String) (attempts : Nat) (last : String)
deriving DecidableEq, Repr

namespace CallError

/-- The wording of an error. -/
def message : CallError → String
  | unauthorized cause => cause.message
  | badRequest reason => reason
  | modelNotFound model => "unknown model: '" ++ model ++ "'"
  | exhausted model attempts last =>
    "all " ++ toString attempts ++ " backend(s) for model '" ++ model ++
      "' failed, last error: " ++ last

/-- The status of the response. -/
def status : CallError → Status
  | unauthorized _ => ⟨401⟩
  | badRequest _ => ⟨400⟩
  | modelNotFound _ => ⟨404⟩
  | exhausted .. => ⟨502⟩

/-- The type of the error. -/
def type : CallError → String
  | unauthorized _ => "authentication_error"
  | badRequest _ => "invalid_request_error"
  | modelNotFound _ => "model_not_found"
  | exhausted .. => "upstream_error"

/-- The response that tells a caller of an error. -/
def response (e : CallError) : Response :=
  let error := Json.ofMembers [("message", .string e.message), ("type", .string e.type)]
  .json e.status (Json.ofMembers [("error", error)]).render

end CallError

end ModelGateway

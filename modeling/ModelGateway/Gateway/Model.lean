/-
Which model a call is for, and which models there are.

A caller names the model in the body, as clients do, or overrides it in a header.  Of
the body nothing else is looked at.
-/
import ModelGateway.Gateway.CallError
import ModelGateway.Json.Outline
import ModelGateway.Text.NameSet

namespace ModelGateway

/-- The header that overrides the model of the body. -/
def overrideHeader : String := "model-override"

/-- What is asked of a body: the name of a model. -/
def modelOutline : Json.Outline String where
  title := "struct ExtractedModel"
  start := ""
  fields := [{
    name := "model"
    required := true
    take := fun bytes _ => Json.takePlainText bytes }]

/-- The text of an override, without the blanks around it. -/
def overridden (value : HeaderValue) : Except CallError String :=
  match value.text? with
  | some text => .ok (Text.trim text)
  | none => .error (.badRequest "model-override header is not valid text")

/-- The model that a body names. -/
def modelOfBody (body : ByteArray) : Except CallError String :=
  (modelOutline.read (Json.textBytes body)).mapError fun e =>
    .badRequest ("body must be JSON with a 'model' field: " ++ e.message)

/-- The model that a call is for. -/
def requestedModel (headers : Headers) (body : ByteArray) : Except CallError String := do
  let model ← match headers.get? overrideHeader with
    | some value => overridden value
    | none => modelOfBody body
  if model = "" then .error (.badRequest "model must not be empty") else .ok model

/-! ### Listing -/

/-- Who is said to own every model. -/
def modelOwner : String := "borg"

/-- How a model is listed. -/
def listedModel (name : String) : Json := .object [
  ("id", .string name), ("created", .null), ("object", .string "model"),
  ("owned_by", .string modelOwner)]

/-- How models are listed, each name once and in order. -/
def modelListing (names : NameSet) : Json := .object [
  ("object", .string "list"), ("data", .array (names.toList.map listedModel))]

end ModelGateway

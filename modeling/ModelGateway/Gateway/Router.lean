/-
What a gateway offers.

Three things are offered: a sign of life at the root, the list of models, and every
other path below the API root, which is passed on.  A path is compared as it stands
in the target, escapes and all.
-/
import ModelGateway.Gateway.Basic

namespace ModelGateway

/-- What a path leads to. -/
inductive Route
  | health
  | models
  | proxy
deriving DecidableEq, Repr

namespace Route

/-- What a path leads to, if to anything. -/
def ofPath? (path : String) : Option Route :=
  if path = "/" then some health
  else if path = apiRoot ++ "/models" then some models
  else
    match Text.dropLead? (apiRoot ++ "/").toList path.toList with
    | some (_ :: _) => some proxy
    | _ => none

/-- The methods that a route knows. -/
def methods : Route → List String
  | health => ["GET", "HEAD"]
  | models => ["GET", "HEAD"]
  | proxy => ["POST"]

end Route

/-- How a request was answered. -/
structure Served where
  gateway : Gateway
  sent : List Sent := []
  ended : Nat
  response : Response

/-- What a gateway says when asked whether it is alive. -/
def healthReport : Json :=
  Json.ofMembers [("status", .string "ok"), ("detail", .string "Proxy router is running")]

/-- The response that nothing is there. -/
def notFound : Response := { status := ⟨404⟩ }

/-- The response that a route does not know a method. -/
def Route.refusal (r : Route) : Response where
  status := ⟨405⟩
  headers := [("allow", HeaderValue.ofText (",".intercalate r.methods))]

/-- A response without its body, if only its head was asked for. -/
def Response.forMethod (r : Response) (method : String) : Response :=
  if method = "HEAD" then { r with body := {} } else r

/-- The models that a gateway lists. -/
def Gateway.listing (g : Gateway) : Response :=
  .json ⟨200⟩ (modelListing (.ofList g.registry.models)).render

/-- Answer a request at an instant. -/
def Gateway.serve (g : Gateway) (net : Network) (now : Nat) (r : Inbound) : Served :=
  match Route.ofPath? r.uri.shownPath with
  | none => { gateway := g, ended := now, response := notFound }
  | some route =>
    if !route.methods.contains r.method then
      { gateway := g, ended := now, response := route.refusal }
    else
      match route with
      | .health =>
        { gateway := g, ended := now,
          response := (Response.json ⟨200⟩ healthReport.render).forMethod r.method }
      | .models =>
        { gateway := g, ended := now, response := g.listing.forMethod r.method }
      | .proxy =>
        let p := g.proxy net now r
        { gateway := p.gateway, sent := p.sent, ended := p.ended, response := match p.answer with
          | .ok response => response
          | .error e => e.response }

end ModelGateway

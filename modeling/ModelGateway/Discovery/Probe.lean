/-
Asking a backend which models it serves.

A backend lists its models below its API base.  Of the listing only the identifiers
count, and a listing without any is as good as none.
-/
import ModelGateway.Credential.Gate
import ModelGateway.Discovery.Error
import ModelGateway.Fanout.Attempt
import ModelGateway.Json.Outline

namespace ModelGateway

/-- The most bytes a listing may have. -/
def maxListing : Nat := 4 * 1024 * 1024

/-- What is asked of a model in a listing. -/
def listedOutline : Json.Outline String where
  title := "struct ListedModel"
  start := ""
  fields := [{ name := "id", required := true, take := fun bytes _ => Json.takeText bytes }]

/-- What is asked of a listing. -/
def listingOutline : Json.Outline (List String) where
  title := "struct ModelListing"
  start := []
  fields := [{
    name := "data"
    required := true
    take := fun bytes _ => Json.takeList listedOutline.take bytes }]

/-- The models that a listing names. -/
def readListing (body : ByteArray) : Except DiscoveryError NameSet :=
  match listingOutline.read (Json.textBytes body) with
  | .error e => .error (.undecodable (.json e))
  | .ok ids =>
    let models := NameSet.ofList (ids.filter (· != ""))
    if models.isEmpty then .error (.undecodable .emptyListing) else .ok models

/-- The headers of a request that wants JSON, with a credential unless it is empty. -/
def queryHeaders? (credential : String) : Option Headers :=
  let accept := [("accept", mediaTypeJson)]
  if credential = "" then some accept
  else (bearerValue? credential).map fun value => accept ++ [("authorization", value)]

/-- The request for a listing, or why there is none. -/
def listingRequest (url : Url) (credential : String) : Except String Request :=
  match Uri.parse url.render, queryHeaders? credential with
  | .error e, _ => .error e.message
  | .ok _, none => .error HeaderValue.refusal
  | .ok uri, some headers => .ok { method := "GET", uri, headers }

/-- What is made of a response to a request for a listing. -/
def judgeListing (url : String) (response : Response) : Except DiscoveryError NameSet :=
  if !response.status.isSuccess then .error (.probe url ("status " ++ response.status.write))
  else
    match response.body.collect maxListing with
    | .error reason => .error (.probe url reason)
    | .ok body => readListing body

/-- Ask for the listing at an address, and wait so long for it. -/
def probe (net : Network) (limit : Nat) (url : Url) (credential : String) (o : Occasion) :
    Inquiry NameSet :=
  match listingRequest url credential with
  | .error reason => { ended := o, outcome := .error (.probe url.render reason) }
  | .ok request =>
    let (waited, reply) := (net.reply o request).within limit
    { sent := some ⟨o, request⟩, ended := o + waited, outcome := match reply with
      | none => .error (.probeLate url.render)
      | some (.error reason) => .error (.probe url.render reason)
      | some (.ok response) => judgeListing url.render response }

end ModelGateway

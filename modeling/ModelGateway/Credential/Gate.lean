/-
Who may call, and what backends are told.

With a key configured, a caller's `Authorization` is looked at: a value that begins
with the gateway's mark must be the mark and a token that opens, and any other value
passes or not as the settings say.  A value with the mark that does not open never
passes.

Whatever a caller sends, a backend only sees the credential that is its own.
-/
import ModelGateway.Credential.Token
import ModelGateway.Http.Header
import ModelGateway.Endpoint.Basic

namespace ModelGateway

/-- Why a caller is turned away. -/
inductive AuthError
  | missing
  | invalid
deriving DecidableEq, Repr

/-- The wording of an error. -/
def AuthError.message : AuthError → String
  | missing => "missing API key"
  | invalid => "invalid API key"

/-- Who is calling, as far as is known. -/
inductive Caller
  | anonymous
  | unverified
  | verified (identity : String)
deriving DecidableEq, Repr

/-- How a caller is shown. -/
def Caller.write : Caller → String
  | anonymous => "anonymous"
  | unverified => "unverified"
  | verified identity => identity

/-- What is asked of callers. -/
structure Gate where
  /-- Without a cipher nothing is asked. -/
  cipher : Option TokenCipher := none
  /-- What a credential begins with that was issued here. -/
  mark : String := ""
  /-- Whether only such credentials pass. -/
  requireToken : Bool := false
deriving DecidableEq, Repr

/-- A credential without the scheme `Bearer` before it, in whatever case. -/
def withoutScheme (value : String) : String :=
  match Text.cutAt (· == ' ') value.toList with
  | some (scheme, rest) =>
    if Text.sameLetters scheme "bearer".toList then Text.trimStart (String.ofList rest) else value
  | none => value

namespace Gate

/-- Check a credential, behind a scheme or bare. -/
def verify (g : Gate) (value : String) : Except AuthError Caller :=
  match g.cipher with
  | none => .ok .anonymous
  | some cipher =>
    let other : Except AuthError Caller := if g.requireToken then .error .invalid else .ok .unverified
    if g.mark = "" then other
    else
      match Text.dropLead? g.mark.toList (withoutScheme (Text.trim value)).toList with
      | none => other
      | some token =>
        match cipher.identity? (String.ofList token) with
        | some identity => .ok (.verified identity)
        | none => .error .invalid

/-- Check a caller by the first `Authorization` it sent. -/
def authenticate (g : Gate) (headers : Headers) : Except AuthError Caller :=
  if g.cipher.isNone then .ok .anonymous
  else
    match headers.get? "authorization" with
    | none => if g.requireToken then .error .missing else .ok .anonymous
    | some value =>
      match value.text? with
      | none => .error .invalid
      | some text => g.verify text

/-- The credential of an identity, if there is a key: the mark and a token under a fresh nonce. -/
def issue? (g : Gate) (nonce : TokenCipher.Nonce) (identity : String) : Option String :=
  g.cipher.map fun c => g.mark ++ c.mint nonce identity

end Gate

/-- The headers in which a caller may carry a credential. -/
def credentialHeaders : List String := ["authorization", "api-key", "x-api-key"]

/-- A credential as the value of `Authorization`, if a header may hold it. -/
def bearerValue? (credential : String) : Option HeaderValue :=
  HeaderValue.ofText? ("Bearer " ++ credential)

/-- The headers that a backend with a credential is told: nothing of the caller's, and its own if
it has one.  The second part is `false` if no header may hold it. -/
def Headers.forCredential (h : Headers) (credential : String) : Headers × Bool :=
  let h := h.without credentialHeaders
  if credential = "" then (h, true)
  else
    match bearerValue? credential with
    | some value => (h.set "authorization" value, true)
    | none => (h, false)

end ModelGateway

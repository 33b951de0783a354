/-
Tokens that vouch for a caller.

A token is the caller's identity, sealed under the gateway's key and written as
letters: the nonce, the ciphertext and the tag.  Whoever holds the key can make one;
nobody else can, and a token that was changed anywhere does not open.

An identity that is longer than the cipher's mode allows, which is some 2 ^ 36 bytes,
cannot be sealed.  This failure is left out: here every identity has its tokens.
-/
import ModelGateway.Crypto.Gcm
import ModelGateway.Text.Base64

namespace ModelGateway

/-- Why a text is no key. -/
inductive KeyError
  | undecodable (error : Base64.Error)
  | wrongSize (bytes : Nat)
deriving DecidableEq, Repr

/-- The wording of an error. -/
def KeyError.message (e : KeyError) : String :=
  "auth_key must be a base64-url encoded 32-byte key: " ++ match e with
    | undecodable e => e.message
    | wrongSize n => "got " ++ toString n ++ " bytes"

/-- Makes tokens and reads them. -/
structure TokenCipher where
  key : Aes.Key
deriving DecidableEq, Repr

namespace TokenCipher

/-- How many bytes a key has. -/
def keySize : Nat := 32

/-- How many bytes a nonce has. -/
def nonceSize : Nat := 12

/-- The cipher of a key in letters. -/
def ofText (text : String) : Except KeyError TokenCipher :=
  match Base64.decode (Text.trim text) with
  | .error e => .error (.undecodable e)
  | .ok bytes =>
    if bytes.length = keySize then .ok ⟨.ofList bytes⟩ else .error (.wrongSize bytes.length)

/-- The bytes that tell one sealing from every other. -/
structure Nonce where
  bytes : List UInt8
  length_bytes : bytes.length = nonceSize
deriving DecidableEq, Repr

/-- The nonce that a list begins with; a byte that is not there is zero. -/
def Nonce.ofList (bytes : List UInt8) : Nonce where
  bytes := (List.range nonceSize).map fun i => bytes.getD i 0
  length_bytes := by rw [List.length_map, List.length_range]

/-- Random bytes make a nonce. -/
instance : Coe (List UInt8) Nonce := ⟨Nonce.ofList⟩

/-- The token of an identity, under a nonce that is used once. -/
def mint (c : TokenCipher) (nonce : Nonce) (identity : String) : String :=
  Base64.encode (nonce.bytes ++ Gcm.encrypt c.key nonce.bytes (Utf8.encode identity.toList))

/-- The identity of a token, if it is one of this cipher's. -/
def identity? (c : TokenCipher) (token : String) : Option String :=
  match Base64.decode (Text.trim token) with
  | .error _ => none
  | .ok bytes =>
    if bytes.length ≤ nonceSize then none
    else (Gcm.decrypt? c.key (bytes.take nonceSize) (bytes.drop nonceSize)).bind Utf8.decodeList?

/-- What a log shows of a cipher. -/
def shown : String := "TokenCipher \x7b .. \x7d"

end TokenCipher

end ModelGateway

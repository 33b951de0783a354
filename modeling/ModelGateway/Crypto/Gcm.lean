/-
Galois/counter mode: a cipher for texts of any length that notices changes.

The text is added to a keystream, the encrypted values of a counter that starts from
the nonce.  A tag vouches for the result: the ciphertext and its length, as
coefficients of a polynomial over the field of 2¹²⁸ elements, evaluated at a secret
point and masked with the keystream's first block.  Decryption computes the tag again
and gives nothing away unless it agrees.
-/
import ModelGateway.Crypto.Aes

namespace ModelGateway.Gcm

open Aes (Block Key)

/-! ### The field

An element is a polynomial over the bits, its coefficients from the most significant
bit on; products are taken modulo `x¹²⁸ + x⁷ + x² + x + 1`.
-/

/-- An element of the field. -/
abbrev Element := BitVec 128

/-- An element times `x`. -/
def timesX (v : Element) : Element :=
  if v.getLsbD 0 then (v >>> 1) ^^^ (0xE1#128 <<< 120) else v >>> 1

/-- Add to `z` the multiples of `v` that the next `n` coefficients of `a` ask for. -/
def accumulate (a : Element) : Nat → Element → Element → Element
  | 0, z, _ => z
  | n + 1, z, v => accumulate a n (if a.getLsbD n then z ^^^ v else z) (timesX v)

/-- The product of two elements. -/
def product (a b : Element) : Element := accumulate a 128 0#128 b

/-- The bytes of a block as an element, the first byte most significant. -/
def toElement (bytes : List UInt8) : Element :=
  BitVec.ofNat 128 ((Block.ofList bytes).toList.foldl (fun n b => n * 256 + b.toNat) 0)

/-- Sixteen bytes from an element, the most significant first. -/
def ofElement (v : Element) : List UInt8 :=
  (List.range 16).map fun i => UInt8.ofNat (v.toNat >>> (8 * (15 - i)))

/-! ### The tag -/

/-- A list cut into blocks of sixteen, the last one shorter. -/
def chunks (bytes : List UInt8) : List (List UInt8) :=
  match bytes with
  | [] => []
  | b :: bs => (b :: bs).take 16 :: chunks ((b :: bs).drop 16)
termination_by bytes.length
decreasing_by simp only [List.length_drop, List.length_cons]; omega

/-- Take one coefficient into the value of a polynomial. -/
def absorb (point value coefficient : Element) : Element := product (value ^^^ coefficient) point

/-- The coefficients of a ciphertext: its blocks, and its length in bits. -/
def coefficients (cipher : List UInt8) : List Element :=
  (chunks cipher).map toElement ++ [BitVec.ofNat 128 (8 * cipher.length)]

/-- The value of a ciphertext's polynomial at a point. -/
def hash (point : Element) (cipher : List UInt8) : Element :=
  (coefficients cipher).foldl (absorb point) 0#128

/-! ### The keystream -/

/-- The counter block of a nonce. -/
def counter (nonce : List UInt8) (n : Nat) : Block :=
  .ofList (nonce.take 12 ++ (List.range 4).map fun i => UInt8.ofNat (n >>> (8 * (3 - i))))

/-- Add the keystream to a text, from the counter's value on. -/
def addStream (k : Key) (nonce : List UInt8) (n : Nat) (bytes : List UInt8) : List UInt8 :=
  match bytes with
  | [] => []
  | b :: bs =>
    List.zipWith (· ^^^ ·) ((b :: bs).take 16) (Aes.encrypt k (counter nonce n)).toList ++
      addStream k nonce (n + 1) ((b :: bs).drop 16)
termination_by bytes.length
decreasing_by simp only [List.length_drop, List.length_cons]; omega

/-- The tag of a ciphertext. -/
def tag (k : Key) (nonce cipher : List UInt8) : List UInt8 :=
  let point := toElement (Aes.encrypt k .zero).toList
  List.zipWith (· ^^^ ·) (ofElement (hash point cipher)) (Aes.encrypt k (counter nonce 1)).toList

/-! ### Encryption and decryption -/

/-- A text encrypted under a key and a nonce: ciphertext, then tag. -/
def encrypt (k : Key) (nonce text : List UInt8) : List UInt8 :=
  let cipher := addStream k nonce 2 text
  cipher ++ tag k nonce cipher

/-- The text of an encrypted one, if its tag agrees. -/
def decrypt? (k : Key) (nonce sealed : List UInt8) : Option (List UInt8) :=
  if sealed.length < 16 then none
  else
    let cipher := sealed.take (sealed.length - 16)
    if sealed.drop (sealed.length - 16) = tag k nonce cipher then
      some (addStream k nonce 2 cipher)
    else none

end ModelGateway.Gcm

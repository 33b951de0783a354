/-
Texts as bytes.

Everything that crosses the network is bytes.  Core's strict decoder decides what
is text; the forgiving reading of a text that is only shown to a person replaces
each maximal ill-formed stretch by one U+FFFD, which is what `decodeForgiving`
spells out lead byte by lead byte.
-/
import ModelGateway.Text.Basic

namespace ModelGateway.Utf8

/-- The bytes of a text. -/
def encode (cs : List Char) : List UInt8 :=
  cs.flatMap String.utf8EncodeChar

/-- The text that some bytes spell, if they are well formed. -/
def decode? (bytes : ByteArray) : Option String :=
  String.fromUTF8? bytes

/-- The text that some bytes spell, if they are well formed. -/
def decodeList? (bytes : List UInt8) : Option String :=
  decode? ⟨bytes.toArray⟩

/-! ### Forgiving decoding

A lead byte says how many bytes follow it and in which range the first of them
lies; that range is what keeps out overlong forms, surrogates and code points
beyond U+10FFFF.
-/

/-- What a lead byte announces: how many bytes follow, and the bounds of the first of them. -/
structure Lead where
  follow : Nat
  low : UInt8
  high : UInt8

/-- The lead bytes of sequences of two to four bytes. -/
def lead? (b : UInt8) : Option Lead :=
  if 0xC2 ≤ b ∧ b ≤ 0xDF then some ⟨1, 0x80, 0xBF⟩
  else if b = 0xE0 then some ⟨2, 0xA0, 0xBF⟩
  else if b = 0xED then some ⟨2, 0x80, 0x9F⟩
  else if 0xE1 ≤ b ∧ b ≤ 0xEF then some ⟨2, 0x80, 0xBF⟩
  else if b = 0xF0 then some ⟨3, 0x90, 0xBF⟩
  else if b = 0xF4 then some ⟨3, 0x80, 0x8F⟩
  else if 0xF1 ≤ b ∧ b ≤ 0xF3 then some ⟨3, 0x80, 0xBF⟩
  else none

/-- The longest run of bytes that continues a sequence, at most `n`, the first within bounds. -/
def continuation : Nat → UInt8 → UInt8 → List UInt8 → List UInt8
  | 0, _, _, _ => []
  | _ + 1, _, _, [] => []
  | n + 1, low, high, b :: bs =>
    if low ≤ b ∧ b ≤ high then b :: continuation n 0x80 0xBF bs else []

/-- The code point that a lead byte and its continuation spell. -/
def codePoint (first : UInt8) (rest : List UInt8) : Nat :=
  let head := match rest.length with
    | 1 => first.toNat % 32
    | 2 => first.toNat % 16
    | _ => first.toNat % 8
  rest.foldl (fun n b => n * 64 + b.toNat % 64) head

/-- Bytes as text, each maximal ill-formed stretch shown as one U+FFFD. -/
def decodeForgiving : List UInt8 → List Char
  | [] => []
  | b :: bs =>
    if b < 0x80 then Char.ofNat b.toNat :: decodeForgiving bs
    else match lead? b with
      | none => '\uFFFD' :: decodeForgiving bs
      | some l =>
        let rest := continuation l.follow l.low l.high bs
        let c := if rest.length = l.follow then Char.ofNat (codePoint b rest) else '\uFFFD'
        c :: decodeForgiving (bs.drop rest.length)
termination_by bs => bs.length
decreasing_by all_goals simp only [List.length_drop, List.length_cons]; omega

end ModelGateway.Utf8

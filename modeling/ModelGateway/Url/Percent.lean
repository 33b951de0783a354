/-
Percent-encoding.

A character that a part of an address cannot hold is written as its bytes, each a
`%` and two hexadecimal digits.  Which ASCII characters a part cannot hold is an
encode set; characters beyond ASCII are in every set.  A `%` is in hardly any of
them, so a text that is already encoded stays as it is.
-/
import ModelGateway.Text.Utf8

namespace ModelGateway.Url

/-- Which ASCII characters a part of an address writes encoded. -/
abbrev EncodeSet := Char → Bool

namespace EncodeSet

/-- Control characters: the part of every set. -/
def controls : EncodeSet := fun c => c.toNat < 0x20 || c.toNat == 0x7F

/-- A fragment, besides, holds no blank, quote, angle bracket or grave accent. -/
def fragment : EncodeSet := fun c => controls c || [' ', '"', '<', '>', '\x60'].contains c

/-- A path, besides, holds none of the characters that end it, and no brace. -/
def path : EncodeSet := fun c => fragment c || ['#', '?', '\x7b', '\x7d'].contains c

/-- A path segment given as data, besides, holds no slash and no percent sign. -/
def segment : EncodeSet := fun c => path c || ['/', '%'].contains c

/-- The same under a scheme where a backslash is a slash too. -/
def specialSegment : EncodeSet := fun c => segment c || c == '\\'

/-- A user name or password holds no delimiter of the authority. -/
def userinfo : EncodeSet := fun c =>
  path c || ['/', ':', ';', '=', '@', '[', '\\', ']', '^', '|'].contains c

/-- A query holds no blank, double quote, hash or angle bracket. -/
def query : EncodeSet := fun c => controls c || [' ', '"', '#', '<', '>'].contains c

/-- A query under a well-known scheme, besides, holds no single quote. -/
def specialQuery : EncodeSet := fun c => query c || c.toNat == 0x27

end EncodeSet

/-- A byte as `%` and two hexadecimal digits. -/
def encodeByte (b : UInt8) : List Char :=
  ['%', Text.hexUpper (b.toNat / 16), Text.hexUpper (b.toNat % 16)]

/-- A character as a part of an address writes it. -/
def encodeChar (set : EncodeSet) (c : Char) : List Char :=
  if c.toNat < 0x80 && !set c then [c] else (String.utf8EncodeChar c).flatMap encodeByte

/-- A text as a part of an address writes it. -/
def percentEncode (set : EncodeSet) (cs : List Char) : List Char :=
  cs.flatMap (encodeChar set)

/-- The bytes of a text, each `%` and two hexadecimal digits read as one byte. -/
def percentDecode : List Char → List UInt8
  | [] => []
  | '%' :: a :: b :: cs =>
    match Text.hexValue? a, Text.hexValue? b with
    | some x, some y => UInt8.ofNat (x * 16 + y) :: percentDecode cs
    | _, _ => 0x25 :: percentDecode (a :: b :: cs)
  | c :: cs => String.utf8EncodeChar c ++ percentDecode cs

end ModelGateway.Url

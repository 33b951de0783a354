/-
Headers of a message.

Names are in lower case and may be repeated; what counts is the order of the values
of one name.  A value is bytes without controls other than tab, and is text only when
it keeps to visible ASCII.
-/
import ModelGateway.Text.Utf8

namespace ModelGateway

/-- The value of a header. -/
abbrev HeaderValue := List UInt8

namespace HeaderValue

/-- Whether a header may hold a byte. -/
def isAllowed (b : UInt8) : Bool := (0x20 ≤ b && b != 0x7F) || b == 0x09

/-- Whether a byte of a value is text. -/
def isVisible (b : UInt8) : Bool := (0x20 ≤ b && b < 0x7F) || b == 0x09

/-- A text as a value, if a header may hold it. -/
def ofText? (s : String) : Option HeaderValue :=
  let bytes := Utf8.encode s.toList
  if bytes.all isAllowed then some bytes else none

/-- What is said of a text that no header may hold. -/
def refusal : String := "failed to parse header value"

/-- The text of a value, if it is one. -/
def text? (v : HeaderValue) : Option String :=
  if v.all isVisible then some (String.ofList (v.map fun b => Char.ofNat b.toNat)) else none

/-- A visible text as a value. -/
def ofText (s : String) : HeaderValue := Utf8.encode s.toList

end HeaderValue

/-- The headers of a message, by name. -/
abbrev Headers := List (String × HeaderValue)

namespace Headers

/-- The first value of a name. -/
def get? (h : Headers) (name : String) : Option HeaderValue :=
  (h.find? (·.1 == name)).map (·.2)

/-- The headers without those of some names. -/
def without (h : Headers) (names : List String) : Headers :=
  h.filter fun x => !names.contains x.1

/-- The headers with one value under a name, whatever was there. -/
def set (h : Headers) (name : String) (value : HeaderValue) : Headers :=
  h.without [name] ++ [(name, value)]

end Headers

end ModelGateway

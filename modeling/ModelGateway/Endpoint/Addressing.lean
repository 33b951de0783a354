/-
How to reach a pod.

A pod says so in its annotations: under a configured lead they name the protocol,
the port and the path of its API, and each has a default.  Everything but the port
is taken as it comes; a port that is no number is an error, since guessing one
could reach something else.
-/
import ModelGateway.Endpoint.Basic

namespace ModelGateway

/-- The annotations of a pod: values by key, one for each. -/
abbrev Annotations := List (String × String)

/-- The value of a key. -/
def Annotations.get? (annotations : Annotations) (key : String) : Option String :=
  (annotations.find? (·.1 == key)).map (·.2)

/-- The value of a key without the blanks around it; a blank value is none. -/
def Annotations.value? (annotations : Annotations) (key : String) : Option String :=
  ((annotations.get? key).map Text.trim).filter (· != "")

/-- An annotation that cannot be used. -/
structure InvalidAnnotation where
  key : String
  value : String
  reason : String
deriving DecidableEq, Repr

/-! ### Numbers -/

/-- Why a text is no number of a given size. -/
inductive NumeralError
  | empty
  | invalidDigit
  | tooLarge
deriving DecidableEq, Repr

/-- The wording of an error. -/
def NumeralError.message : NumeralError → String
  | empty => "cannot parse integer from empty string"
  | invalidDigit => "invalid digit found in string"
  | tooLarge => "number too large to fit in target type"

/-- Read digits onto a number, none of whose steps may exceed `max`. -/
def readDigits (max : Nat) : Nat → List Char → Except NumeralError Nat
  | n, [] => .ok n
  | n, c :: cs =>
    if Text.isDigit c then
      let next := n * 10 + (c.toNat - 0x30)
      if max < next then .error .tooLarge else readDigits max next cs
    else .error .invalidDigit

/-- Read a number up to `max`: digits, a plus sign before them or not. -/
def readNumeral (max : Nat) (cs : List Char) : Except NumeralError Nat :=
  match cs with
  | [] => .error .empty
  | ['+'] => .error .invalidDigit
  | '+' :: digits => readDigits max 0 digits
  | digits => readDigits max 0 digits

/-! ### Addressing -/

/-- How a pod is reached. -/
structure Addressing where
  protocol : String
  port : Option UInt16
  apiBase : String
deriving DecidableEq, Repr

namespace Addressing

/-- What a pod's annotations say under a lead. -/
def ofAnnotations (annotations : Annotations) (lead : String) :
    Except InvalidAnnotation Addressing := do
  let port ← match annotations.value? (lead ++ "apiport") with
    | none => .ok none
    | some text =>
      match readNumeral 65535 text.toList with
      | .ok n => .ok (some (UInt16.ofNat n))
      | .error e => .error ⟨lead ++ "apiport", text, e.message⟩
  .ok {
    protocol := Text.lower ((annotations.value? (lead ++ "protocol")).getD "http")
    port
    apiBase := (annotations.value? (lead ++ "apibase")).getD "/v1" }

/-- An address as a host: one with colons stands in brackets. -/
def hostText (ip : String) : String :=
  if ip.toList.contains ':' && ip.toList.head? != some '[' then "[" ++ ip ++ "]" else ip

/-- The API base as it follows the port: no slashes at its end, one at its start unless empty. -/
def basePath (apiBase : String) : String :=
  let cs := Text.dropEndWhile (· == '/') apiBase.toList
  String.ofList (if cs.isEmpty || cs.head? == some '/' then cs else '/' :: cs)

/-- The text of a pod's base. -/
def baseText (a : Addressing) (ip : String) : String :=
  a.protocol ++ "://" ++ hostText ip ++
    (match a.port with | some p => ":" ++ toString p.toNat | none => "") ++ basePath a.apiBase

/-- The base of a pod at an address. -/
def baseUrl (a : Addressing) (ip : String) : Except Url.Error Url :=
  Url.parse (a.baseText ip)

end Addressing

/-- Whether a character separates model names in an annotation. -/
def isNameSeparator (c : Char) : Bool := c == ',' || c == ';' || Text.isBlank c

/-- The model names in an annotation. -/
def readModelList (value : String) : NameSet :=
  NameSet.ofList <|
    ((Text.splitOn isNameSeparator value.toList).filter (!·.isEmpty)).map String.ofList

end ModelGateway

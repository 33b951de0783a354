/-
JSON documents.

A document is kept with its object members in order of their names, each name once:
what is asked of a settings document never depends on the order its author chose.
Integers of up to 64 bits are kept exactly and apart from other numbers, because
what wants an integer refuses `5.0`.
-/
import ModelGateway.Json.Double

namespace ModelGateway

namespace Json

/-- A number as it was written: an integer that fits 64 bits, or anything else. -/
inductive Number
  | natural (n : UInt64)
  /-- The integer `-(n + 1)`. -/
  | negative (n : UInt64)
  | double (d : Double)
deriving DecidableEq, Repr, Inhabited

end Json

/-- A JSON document. -/
inductive Json
  | null
  | bool (b : Bool)
  | number (n : Json.Number)
  | string (s : String)
  | array (items : List Json)
  | object (members : List (String × Json))
deriving Repr, Inhabited

namespace Json

/-- Put a member in its place; an earlier one of the same name gives way. -/
def insertMember (name : String) (value : Json) : List (String × Json) → List (String × Json)
  | [] => [(name, value)]
  | (n, v) :: rest =>
    if name < n then (name, value) :: (n, v) :: rest
    else if name = n then (name, value) :: rest
    else (n, v) :: insertMember name value rest

/-- The object of some members, given in the order they were written. -/
def ofMembers (members : List (String × Json)) : Json :=
  .object (members.foldl (fun acc (n, v) => insertMember n v acc) [])

/-- The member of a name, if the document is an object that has one. -/
def member? (name : String) : Json → Option Json
  | .object members => (members.find? (·.1 == name)).map (·.2)
  | _ => none

/-- A natural number as a document. -/
def ofNat (n : Nat) : Json := .number (.natural (UInt64.ofNat n))

/-- An integer of 64 bits as a document. -/
def ofInt : Int → Json
  | .ofNat n => ofNat n
  | .negSucc n => .number (.negative (UInt64.ofNat n))

/-- A text or nothing as a document. -/
def ofText? : Option String → Json
  | some s => .string s
  | none => .null

/-- A number as text. -/
def Number.write : Number → String
  | natural n => toString n.toNat
  | negative n => "-" ++ toString (n.toNat + 1)
  | double d => d.write

end Json

end ModelGateway

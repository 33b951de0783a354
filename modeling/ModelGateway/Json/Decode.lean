/-
Records out of documents.

A record is described by its fields; each knows its names, whether it must be there
and how its value changes the record read so far.  The record starts out with every
default.  An object sets the fields that its members name and leaves members of
other names alone; a field set twice, even under two of its names, is refused.  An
array gives the fields in the order they are declared.
-/
import ModelGateway.Json.Parse

namespace ModelGateway.Json

/-- A field of a record. -/
structure Field (σ : Type) where
  /-- The name it is shown by. -/
  name : String
  /-- Other names it is known by. -/
  aliases : List String := []
  required : Bool := false
  read : Json → σ → Except Error σ

/-- What a record looks like in a document. -/
structure Shape (σ : Type) where
  /-- What messages call it. -/
  title : String
  start : σ
  fields : List (Field σ)

namespace Shape

variable {σ : Type}

/-- The field that a member's name stands for. -/
def field? (shape : Shape σ) (name : String) : Option (Field σ) :=
  shape.fields.find? fun f => f.name == name || f.aliases.contains name

/-- Take in one member.  The state is the record so far and the fields already set. -/
def takeMember (shape : Shape σ) (state : σ × List String) (member : String × Json) :
    Except Error (σ × List String) :=
  match shape.field? member.1 with
  | none => .ok state
  | some f =>
    if state.2.contains f.name then .error (.duplicateField f.name)
    else (f.read member.2 state.1).map fun s => (s, f.name :: state.2)

/-- The record of some members. -/
def ofObject (shape : Shape σ) (members : List (String × Json)) : Except Error σ := do
  let (s, seen) ← members.foldlM shape.takeMember (shape.start, [])
  match shape.fields.find? fun f => f.required && !seen.contains f.name with
  | some f => .error (.missingField f.name)
  | none => .ok s

/-- How many fields a record has, in words. -/
def sized (shape : Shape σ) : String :=
  let n := shape.fields.length
  shape.title ++ " with " ++ toString n ++ (if n = 1 then " element" else " elements")

/-- Take in values by position; gives the values that are left over. -/
def takeItems (shape : Shape σ) :
    Nat → List (Field σ) → List Json → σ → Except Error (σ × List Json)
  | _, [], items, s => .ok (s, items)
  | i, f :: fs, [], s =>
    if f.required then .error (.invalidLength i shape.sized)
    else takeItems shape (i + 1) fs [] s
  | i, f :: fs, v :: vs, s => do
    let s ← f.read v s
    takeItems shape (i + 1) fs vs s

/-- The record of some values by position. -/
def ofArray (shape : Shape σ) (items : List Json) : Except Error σ := do
  let (s, left) ← shape.takeItems 0 shape.fields items shape.start
  if left.isEmpty then .ok s
  else .error (.invalidLength items.length "fewer elements in array")

/-- The record of a document. -/
def decode (shape : Shape σ) : Json → Except Error σ
  | .object members => shape.ofObject members
  | .array items => shape.ofArray items
  | v => .error (.invalidType v.describe shape.title)

end Shape

/-! ### Values of fields -/

/-- A text. -/
def readText (expected : String) : Json → Except Error String
  | .string s => .ok s
  | v => .error (.invalidType v.describe expected)

/-- A truth value. -/
def readFlag : Json → Except Error Bool
  | .bool b => .ok b
  | v => .error (.invalidType v.describe "a boolean")

/-- An integer between bounds. -/
def readInteger (expected : String) (low high : Int) (v : Json) : Except Error Int :=
  let within (i : Int) : Except Error Int :=
    if low ≤ i ∧ i ≤ high then .ok i else .error (.invalidValue v.describe expected)
  match v with
  | .number (.natural n) => within n.toNat
  | .number (.negative n) => within (-(n.toNat + 1 : Int))
  | _ => .error (.invalidType v.describe expected)

/-- A value that may be absent. -/
def readOptional {α : Type} (read : Json → Except Error α) : Json → Except Error (Option α)
  | .null => .ok none
  | v => (read v).map some

/-- A list of values. -/
def readList {α : Type} (read : Json → Except Error α) : Json → Except Error (List α)
  | .array items => items.mapM read
  | v => .error (.invalidType v.describe "a sequence")

/-- One of some named values: its name, or an object whose only member has that name and says
nothing more. -/
def readChoice {α : Type} (choices : List (String × α)) (v : Json) : Except Error α :=
  let named (name : String) : Except Error α :=
    match choices.find? (·.1 == name) with
    | some (_, x) => .ok x
    | none => .error (.unknownVariant name (choices.map (·.1)))
  match v with
  | .string name => named name
  | .object [(name, value)] => do
    let x ← named name
    match value with
    | .null => .ok x
    | other => .error (.invalidType other.describe "unit")
  | .object _ => .error (.invalidValue "map" "map with a single key")
  | other => .error (.invalidType other.describe "string or map")

end ModelGateway.Json

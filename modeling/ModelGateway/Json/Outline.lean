/-
Reading only what is asked for.

A request or a listing says much that is of no concern here.  An outline names the
few fields that are, and reading it walks the text once: it takes what the outline
names, passes over everything else, and stops at the first fault, so a fault further
on is never reported instead of an earlier one.

As with documents, an object gives fields by name and an array gives them in order.
-/
import ModelGateway.Json.Skip

namespace ModelGateway.Json

/-- What is said of a value of the wrong type that starts here: the fault in it, if it has one. -/
def mismatch (expected : String) (bytes : List UInt8) : Error :=
  let said {α : Type} (found : α → String) : Except Error (α × List UInt8) → Error
    | .ok (x, _) => .invalidType (found x) expected
    | .error e => e
  let word (cs : List Char) (found : String) (rest : List UInt8) : Error :=
    match readWord cs rest with
    | .ok _ => .invalidType found expected
    | .error e => e
  match bytes with
  | [] => .unfinished
  | b :: rest =>
    match Char.ofNat b.toNat with
    | 'n' => word ['u', 'l', 'l'] "null" rest
    | 't' => word ['r', 'u', 'e'] (describeBool true) rest
    | 'f' => word ['a', 'l', 's', 'e'] (describeBool false) rest
    | '-' => said Number.describe (readNumber true rest)
    | '"' => said (fun x => describeText x.1) (readString rest)
    | '[' => .invalidType "sequence" expected
    | '\x7b' => .invalidType "map" expected
    | _ =>
      if isDigit b then said Number.describe (readNumber false (b :: rest)) else .malformed

/-- Take a text. -/
def takeText (bytes : List UInt8) : Except Error (String × List UInt8) :=
  match skipBlanks bytes with
  | 0x22 :: rest => do
    let ((s, _), rest) ← readString rest
    .ok (s, rest)
  | other => .error (mismatch "a string" other)

/-- Take a text that stands in the bytes as it is: one with escapes is refused. -/
def takePlainText (bytes : List UInt8) : Except Error (String × List UInt8) :=
  match skipBlanks bytes with
  | 0x22 :: rest => do
    let ((s, escaped), rest) ← readString rest
    if escaped then .error (.invalidType (describeText s) "a borrowed string") else .ok (s, rest)
  | other => .error (mismatch "a borrowed string" other)

/-- Take a value or `null`. -/
def takeOptional {α : Type} (take : List UInt8 → Except Error (α × List UInt8))
    (bytes : List UInt8) : Except Error (Option α × List UInt8) :=
  match skipBlanks bytes with
  | 0x6E :: rest => do .ok (none, ← readWord ['u', 'l', 'l'] rest)
  | other => do
    let (x, rest) ← take other
    .ok (some x, rest)

/-- Take items up to the closing bracket, in at most so many rounds. -/
def takeItems {α : Type} (take : List UInt8 → Except Error (α × List UInt8)) :
    Nat → Bool → List α → List UInt8 → Except Error (List α × List UInt8)
  | 0, _, _, _ => .error .unfinished
  | rounds + 1, isFirst, items, bytes => do
    match ← nextItem isFirst bytes with
    | none => .ok (items.reverse, ← closeArray bytes)
    | some start =>
      let (x, rest) ← take start
      takeItems take rounds false (x :: items) rest

/-- Take a list. -/
def takeList {α : Type} (take : List UInt8 → Except Error (α × List UInt8))
    (bytes : List UInt8) : Except Error (List α × List UInt8) :=
  match skipBlanks bytes with
  | 0x5B :: rest => takeItems take (rest.length + 1) true [] rest
  | other => .error (mismatch "a sequence" other)

/-- Take members up to the closing bracket, in at most so many rounds; of two with one name the
later counts. -/
def takeTexts : Nat → Bool → List (String × String) → List UInt8 →
    Except Error (List (String × String) × List UInt8)
  | 0, _, _, _ => .error .unfinished
  | rounds + 1, isFirst, members, bytes => do
    match ← nextMember isFirst bytes with
    | none => .ok (members, ← closeObject bytes)
    | some (name, rest) =>
      let (s, rest) ← takeText (← readColon rest)
      takeTexts rounds false (members.filter (·.1 != name) ++ [(name, s)]) rest

/-- Take an object of texts. -/
def takeTextMap (bytes : List UInt8) : Except Error (List (String × String) × List UInt8) :=
  match skipBlanks bytes with
  | 0x7B :: rest => takeTexts (rest.length + 1) true [] rest
  | other => .error (mismatch "a map" other)

/-! ### Outlines -/

/-- A field that is asked for. -/
structure Asked (σ : Type) where
  name : String
  required : Bool := false
  take : List UInt8 → σ → Except Error (σ × List UInt8)

/-- What is asked for. -/
structure Outline (σ : Type) where
  /-- What messages call it. -/
  title : String
  start : σ
  fields : List (Asked σ)

namespace Outline

variable {σ : Type}

/-- How many fields are asked for, in words. -/
def sized (o : Outline σ) : String :=
  let n := o.fields.length
  o.title ++ " with " ++ toString n ++ (if n = 1 then " element" else " elements")

/-- Take members by name up to the closing bracket.  The state is what was taken so far and the
names of the fields that were.  A name that comes again is refused before its colon is looked
for. -/
def takeMembers (o : Outline σ) : Nat → Bool → σ × List String → List UInt8 →
    Except Error ((σ × List String) × List UInt8)
  | 0, _, _, _ => .error .unfinished
  | rounds + 1, isFirst, (s, seen), bytes => do
    match ← nextMember isFirst bytes with
    | none => .ok ((s, seen), bytes)
    | some (name, rest) =>
      match o.fields.find? (·.name == name) with
      | none => takeMembers o rounds false (s, seen) (← skipValue (← readColon rest))
      | some f =>
        if seen.contains f.name then .error (.duplicateField f.name)
        else
          let (s, rest) ← f.take (← readColon rest) s
          takeMembers o rounds false (s, f.name :: seen) rest

/-- Take items by position. -/
def takeInOrder (o : Outline σ) : Nat → List (Asked σ) → σ → List UInt8 →
    Except Error (σ × List UInt8)
  | _, [], s, bytes => .ok (s, bytes)
  | i, f :: fs, s, bytes => do
    match ← nextItem (i == 0) bytes with
    | none =>
      if f.required then .error (.invalidLength i o.sized)
      else takeInOrder o (i + 1) fs s bytes
    | some start =>
      let (s, rest) ← f.take start s
      takeInOrder o (i + 1) fs s rest

/-- Take what is asked for. -/
def take (o : Outline σ) (bytes : List UInt8) : Except Error (σ × List UInt8) :=
  match skipBlanks bytes with
  | 0x7B :: rest => do
    let ((s, seen), rest) ← o.takeMembers (rest.length + 1) true (o.start, []) rest
    match o.fields.find? fun f => f.required && !seen.contains f.name with
    | some f => .error (.missingField f.name)
    | none => .ok (s, ← closeObject rest)
  | 0x5B :: rest => do
    let (s, rest) ← o.takeInOrder 0 o.fields o.start rest
    .ok (s, ← closeArray rest)
  | other => .error (mismatch o.title other)

/-- What is asked for, out of a whole text. -/
def read (o : Outline σ) (bytes : List UInt8) : Except Error σ := do
  let (s, rest) ← o.take bytes
  atEnd rest
  .ok s

end Outline

/-! ### Long ends

A text may be followed by millions of blanks, and walking a list of them is slow.  A
run of blanks at the end means the same as four of them: no escape looks further
ahead than that.
-/

/-- The size of the first `n` bytes without the blanks at their end. -/
def sizeBeforeBlanks (bytes : ByteArray) : (n : Nat) → n ≤ bytes.size → Nat
  | 0, _ => 0
  | n + 1, h => if bytes[n] = 0x20 then sizeBeforeBlanks bytes n (by omega) else n + 1

/-- Bytes as a list, with at most four blanks at the end. -/
def textBytes (bytes : ByteArray) : List UInt8 :=
  (bytes.extract 0 (sizeBeforeBlanks bytes bytes.size (Nat.le_refl _) + 4)).toList

end ModelGateway.Json

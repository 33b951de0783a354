/-
Reading a JSON document.

Documents nest at most 127 deep, and the depth that is left is what the recursion
runs on.  The members of one object and the items of one array are read in a loop
that is given as many rounds as there are bytes, of which each round uses at least
one.
-/
import ModelGateway.Json.Lexeme

namespace ModelGateway.Json

/-! ### Between items

Before each item stands nothing or a comma, and a comma is never followed by the
closing bracket.
-/

/-- Where the next item of an array starts; nothing if the array ends here. -/
def nextItem (isFirst : Bool) (bytes : List UInt8) : Except Error (Option (List UInt8)) :=
  match skipBlanks bytes with
  | [] => .error .unfinished
  | 0x5D :: _ => .ok none
  | b :: rest =>
    if isFirst then .ok (some (b :: rest))
    else if b = 0x2C then
      match skipBlanks rest with
      | [] => .error .unfinished
      | 0x5D :: _ => .error .malformed
      | item => .ok (some item)
    else .error .malformed

/-- Read the closing bracket of an array. -/
def closeArray (bytes : List UInt8) : Except Error (List UInt8) :=
  match skipBlanks bytes with
  | [] => .error .unfinished
  | 0x5D :: rest => .ok rest
  | _ => .error .malformed

/-- Read the name of a member. -/
def readName (bytes : List UInt8) : Except Error (String × List UInt8) :=
  match skipBlanks bytes with
  | [] => .error .unfinished
  | 0x22 :: rest => do
    let ((name, _), rest) ← readString rest
    .ok (name, rest)
  | _ => .error .malformed

/-- Read the colon behind the name of a member. -/
def readColon (bytes : List UInt8) : Except Error (List UInt8) :=
  match skipBlanks bytes with
  | [] => .error .unfinished
  | 0x3A :: rest => .ok rest
  | _ => .error .malformed

/-- The name of the next member and where its colon is due; nothing if the object ends here. -/
def nextMember (isFirst : Bool) (bytes : List UInt8) :
    Except Error (Option (String × List UInt8)) :=
  match skipBlanks bytes with
  | [] => .error .unfinished
  | 0x7D :: _ => .ok none
  | b :: rest =>
    if isFirst then (readName (b :: rest)).map some
    else if b = 0x2C then (readName rest).map some
    else .error .malformed

/-- Read the closing bracket of an object. -/
def closeObject (bytes : List UInt8) : Except Error (List UInt8) :=
  match skipBlanks bytes with
  | [] => .error .unfinished
  | 0x7D :: rest => .ok rest
  | _ => .error .malformed

/-! ### Documents -/

/-- Read the items of an array up to its closing bracket, in at most so many rounds. -/
def readItems (item : List UInt8 → Except Error (Json × List UInt8)) :
    Nat → Bool → List Json → List UInt8 → Except Error (List Json × List UInt8)
  | 0, _, _, _ => .error .unfinished
  | rounds + 1, isFirst, items, bytes => do
    match ← nextItem isFirst bytes with
    | none => .ok (items.reverse, ← closeArray bytes)
    | some start =>
      let (v, rest) ← item start
      readItems item rounds false (v :: items) rest

/-- Read the members of an object up to its closing bracket, in at most so many rounds. -/
def readMembers (item : List UInt8 → Except Error (Json × List UInt8)) :
    Nat → Bool → List (String × Json) → List UInt8 → Except Error ((List (String × Json)) × List UInt8)
  | 0, _, _, _ => .error .unfinished
  | rounds + 1, isFirst, members, bytes => do
    match ← nextMember isFirst bytes with
    | none => .ok (members.reverse, ← closeObject bytes)
    | some (name, rest) =>
      let (v, rest) ← item (← readColon rest)
      readMembers item rounds false ((name, v) :: members) rest

/-- Read a document that nests at most so deep. -/
def readValue (depth : Nat) (bytes : List UInt8) : Except Error (Json × List UInt8) :=
  match skipBlanks bytes with
  | [] => .error .unfinished
  | b :: rest =>
    match Char.ofNat b.toNat with
    | 'n' => do .ok (.null, ← readWord ['u', 'l', 'l'] rest)
    | 't' => do .ok (.bool true, ← readWord ['r', 'u', 'e'] rest)
    | 'f' => do .ok (.bool false, ← readWord ['a', 'l', 's', 'e'] rest)
    | '"' => do
      let ((s, _), rest) ← readString rest
      .ok (.string s, rest)
    | '[' =>
      match depth with
      | 0 => .error .malformed
      | d + 1 => do
        let (items, rest) ← readItems (readValue d) (rest.length + 1) true [] rest
        .ok (.array items, rest)
    | '\x7b' =>
      match depth with
      | 0 => .error .malformed
      | d + 1 => do
        let (members, rest) ← readMembers (readValue d) (rest.length + 1) true [] rest
        .ok (ofMembers members, rest)
    | '-' => do
      let (n, rest) ← readNumber true rest
      .ok (.number n, rest)
    | _ => do
      let (n, rest) ← readNumber false (b :: rest)
      .ok (.number n, rest)

/-- How deep documents nest. -/
def maxDepth : Nat := 127

/-- Nothing but blanks may follow a document. -/
def atEnd (bytes : List UInt8) : Except Error Unit :=
  if (skipBlanks bytes).isEmpty then .ok () else .error .malformed

/-- The document that some bytes spell. -/
def parseBytes (bytes : List UInt8) : Except Error Json := do
  let (v, rest) ← readValue maxDepth bytes
  atEnd rest
  .ok v

/-- The document that a text spells. -/
def parse (text : String) : Except Error Json :=
  parseBytes (Utf8.encode text.toList)

end ModelGateway.Json

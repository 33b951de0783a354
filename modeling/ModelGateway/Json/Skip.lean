/-
Passing over a value nobody asked for.

What is passed over must still look like JSON, but no more than that: strings may hold
any bytes, numbers may be of any size, and nesting has no limit.  So instead of a
recursion there is an explicit stack of the brackets that are open, and every round
of the loop uses up at least one byte or opens or closes one bracket.
-/
import ModelGateway.Json.Parse

namespace ModelGateway.Json

/-- Pass over a string behind its opening quote. -/
def skipString : List UInt8 → Except Error (List UInt8)
  | [] => .error .unfinished
  | 0x22 :: rest => .ok rest
  | 0x5C :: 0x75 :: a :: b :: c :: d :: rest =>
    if (hex4? a b c d).isSome then skipString rest else .error .malformed
  | 0x5C :: 0x75 :: _ => .error .unfinished
  | [0x5C] => .error .unfinished
  | 0x5C :: e :: rest => if (escaped? e).isSome then skipString rest else .error .malformed
  | b :: rest => if b < 0x20 then .error .malformed else skipString rest

/-- Pass over at least one digit. -/
def skipDigits (bytes : List UInt8) : Except Error (List UInt8) :=
  if bytes.head?.any isDigit then .ok (bytes.dropWhile isDigit) else .error .malformed

/-- Pass over an exponent, if there is one. -/
def skipExponent (bytes : List UInt8) : Except Error (List UInt8) :=
  match bytes with
  | b :: rest =>
    if isExponentMark b then
      match rest with
      | 0x2B :: rest => skipDigits rest
      | 0x2D :: rest => skipDigits rest
      | rest => skipDigits rest
    else .ok bytes
  | [] => .ok []

/-- Pass over a number behind its sign. -/
def skipNumber (bytes : List UInt8) : Except Error (List UInt8) := do
  let rest ← match bytes with
    | 0x30 :: rest => if rest.head?.any isDigit then .error .malformed else .ok rest
    | rest => skipDigits rest
  match rest with
  | 0x2E :: rest => skipExponent (← skipDigits rest)
  | rest => skipExponent rest

/-- A bracket that is open. -/
inductive Bracket
  | square
  | brace
deriving DecidableEq

/-- What may come next. -/
inductive Expect
  | value
  /-- The first item of what was just opened, or its end. -/
  | first
  /-- A member's name. -/
  | name
  /-- A comma, or the end of what is open. -/
  | next

/-- The byte that closes a bracket. -/
def Bracket.closer : Bracket → UInt8
  | square => 0x5D
  | brace => 0x7D

/-- What an item of a bracket begins with. -/
def Bracket.item : Bracket → Expect
  | square => .value
  | brace => .name

/-- Pass over one value, in at most so many rounds. -/
def skipRounds : Nat → Expect → List Bracket → List UInt8 → Except Error (List UInt8)
  | 0, _, _, _ => .error .unfinished
  | rounds + 1, expect, stack, bytes =>
    match expect, stack with
    | .next, [] => .ok bytes
    | .next, open_ :: below =>
      match skipBlanks bytes with
      | [] => .error .unfinished
      | b :: rest =>
        if b = open_.closer then skipRounds rounds .next below rest
        else if b = 0x2C then skipRounds rounds open_.item stack rest
        else .error .malformed
    | .first, [] => .error .malformed
    | .first, open_ :: below =>
      match skipBlanks bytes with
      | [] => .error .unfinished
      | b :: rest =>
        if b = open_.closer then skipRounds rounds .next below rest
        else skipRounds rounds open_.item stack (b :: rest)
    | .name, _ =>
      match skipBlanks bytes with
      | [] => .error .unfinished
      | 0x22 :: rest => do
        match skipBlanks (← skipString rest) with
        | [] => .error .unfinished
        | 0x3A :: rest => skipRounds rounds .value stack rest
        | _ => .error .malformed
      | _ => .error .malformed
    | .value, _ =>
      match skipBlanks bytes with
      | [] => .error .unfinished
      | b :: rest =>
        match Char.ofNat b.toNat with
        | 'n' => do skipRounds rounds .next stack (← readWord ['u', 'l', 'l'] rest)
        | 't' => do skipRounds rounds .next stack (← readWord ['r', 'u', 'e'] rest)
        | 'f' => do skipRounds rounds .next stack (← readWord ['a', 'l', 's', 'e'] rest)
        | '"' => do skipRounds rounds .next stack (← skipString rest)
        | '[' => skipRounds rounds .first (.square :: stack) rest
        | '\x7b' => skipRounds rounds .first (.brace :: stack) rest
        | '-' => do skipRounds rounds .next stack (← skipNumber rest)
        | _ =>
          if isDigit b then do skipRounds rounds .next stack (← skipNumber (b :: rest))
          else .error .malformed

/-- Pass over one value. -/
def skipValue (bytes : List UInt8) : Except Error (List UInt8) :=
  skipRounds (2 * bytes.length + 2) .value [] bytes

end ModelGateway.Json

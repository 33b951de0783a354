/-
The smallest parts of a JSON text: blanks, words, strings and numbers.

A text is its bytes, since what arrives over the network need not be well-formed
text; a string must be, once its escapes are resolved.  Every function here takes
the bytes from where it starts and gives what it read and what is left.  Running out
of bytes is told apart from meeting a wrong one.
-/
import ModelGateway.Json.Error
import ModelGateway.Text.Utf8

namespace ModelGateway.Json

/-- The byte of an ASCII character. -/
def byte (c : Char) : UInt8 := UInt8.ofNat c.toNat

/-- Blank, line feed, tab and carriage return. -/
def isBlank (b : UInt8) : Bool := b = 0x20 || b = 0x0A || b = 0x09 || b = 0x0D

/-- The bytes from the next one that is not blank. -/
def skipBlanks (bytes : List UInt8) : List UInt8 := bytes.dropWhile isBlank

/-- Read the rest of a fixed word. -/
def readWord : List Char → List UInt8 → Except Error (List UInt8)
  | [], rest => .ok rest
  | _ :: _, [] => .error .unfinished
  | c :: cs, b :: rest => if b = byte c then readWord cs rest else .error .malformed

/-! ### Strings -/

/-- The value of a hexadecimal digit. -/
def hex? (b : UInt8) : Option Nat := Text.hexValue? (Char.ofNat b.toNat)

/-- The value of four hexadecimal digits. -/
def hex4? (a b c d : UInt8) : Option Nat := do
  let a ← hex? a
  let b ← hex? b
  let c ← hex? c
  let d ← hex? d
  some (((a * 16 + b) * 16 + c) * 16 + d)

/-- The byte that an escape of one letter stands for. -/
def escaped? (b : UInt8) : Option UInt8 :=
  match Char.ofNat b.toNat with
  | '"' => some 0x22
  | '\\' => some 0x5C
  | '/' => some 0x2F
  | 'b' => some 0x08
  | 'f' => some 0x0C
  | 'n' => some 0x0A
  | 'r' => some 0x0D
  | 't' => some 0x09
  | _ => none

/-- A string behind its opening quote: the bytes read so far, last first, and whether any of
them came from an escape. -/
structure Literal where
  reversed : List UInt8 := []
  escaped : Bool := false

/-- Add a byte to a literal. -/
def Literal.push (l : Literal) (b : UInt8) : Literal := { l with reversed := b :: l.reversed }

/-- Add an escaped character to a literal. -/
def Literal.pushCode (l : Literal) (n : Nat) : Literal :=
  ⟨(String.utf8EncodeChar (Char.ofNat n)).reverse ++ l.reversed, true⟩

/-- Whether a code unit is the first half of a pair. -/
def isHighHalf (n : Nat) : Bool := 0xD800 ≤ n && n < 0xDC00

/-- Whether a code unit is the second half of a pair. -/
def isLowHalf (n : Nat) : Bool := 0xDC00 ≤ n && n < 0xE000

/-- The code point of a pair. -/
def joinHalves (high low : Nat) : Nat := 0x10000 + (high - 0xD800) * 1024 + (low - 0xDC00)

/-- Read a string behind its opening quote. -/
def readLiteral (l : Literal) (bytes : List UInt8) : Except Error (Literal × List UInt8) :=
  match bytes with
  | [] => .error .unfinished
  | 0x22 :: rest => .ok (l, rest)
  | 0x5C :: 0x75 :: a :: b :: c :: d :: rest =>
    match hex4? a b c d with
    | none => .error .malformed
    | some n =>
      if isLowHalf n then .error .malformed
      else if isHighHalf n then
        match rest with
        | 0x5C :: 0x75 :: e :: f :: g :: h :: rest =>
          match hex4? e f g h with
          | none => .error .malformed
          | some m =>
            if isLowHalf m then readLiteral (l.pushCode (joinHalves n m)) rest
            else .error .malformed
        | [] | [0x5C] => .error .unfinished
        | 0x5C :: 0x75 :: _ => .error .unfinished
        | _ => .error .malformed
      else readLiteral (l.pushCode n) rest
  | 0x5C :: 0x75 :: _ => .error .unfinished
  | [0x5C] => .error .unfinished
  | 0x5C :: e :: rest =>
    match escaped? e with
    | some b => readLiteral ⟨b :: l.reversed, true⟩ rest
    | none => .error .malformed
  | b :: rest => if b < 0x20 then .error .malformed else readLiteral (l.push b) rest

/-- A string behind its opening quote, and whether it held an escape. -/
def readString (bytes : List UInt8) : Except Error ((String × Bool) × List UInt8) := do
  let (l, rest) ← readLiteral {} bytes
  match Utf8.decodeList? l.reversed.reverse with
  | some s => .ok ((s, l.escaped), rest)
  | none => .error .malformed

/-! ### Numbers -/

/-- Whether a byte is a decimal digit. -/
def isDigit (b : UInt8) : Bool := 0x30 ≤ b && b ≤ 0x39

/-- The value of a decimal digit. -/
def digitValue (b : UInt8) : Nat := b.toNat - 0x30

/-- The greatest value of 64 bits. -/
def maxWord : Nat := UInt64.size - 1

/-- Digits taken into a significand while it fits 64 bits, and how many were not. -/
def takeDigits (significand : Nat) : List UInt8 → Nat × Nat
  | [] => (significand, 0)
  | d :: ds =>
    let next := significand * 10 + digitValue d
    if next ≤ maxWord then takeDigits next ds else (significand, (d :: ds).length)

/-- The double of the digits read. -/
def finish (negative : Bool) (significand : Nat) (exponent : Int) (rest : List UInt8) :
    Except Error (Number × List UInt8) :=
  match Double.ofDecimal? negative (UInt64.ofNat significand) exponent with
  | some d => .ok (.double d, rest)
  | none => .error .malformed

/-- The greatest exponent that is computed with; a larger one is none or zero. -/
def maxExponent : Nat := 2147483647

/-- Read an exponent behind its letter. -/
def readExponent (negative : Bool) (significand : Nat) (exponent : Int) (bytes : List UInt8) :
    Except Error (Number × List UInt8) :=
  let (up, bytes) := match bytes with
    | 0x2B :: rest => (true, rest)
    | 0x2D :: rest => (false, rest)
    | _ => (true, bytes)
  match bytes with
  | [] => .error .unfinished
  | b :: _ =>
    if isDigit b then
      let rest := bytes.dropWhile isDigit
      let e := (bytes.takeWhile isDigit).foldl (fun n d => n * 10 + digitValue d) 0
      if maxExponent < e then
        if significand ≠ 0 ∧ up then .error .malformed
        else .ok (.double (Double.zero negative), rest)
      else finish negative significand (if up then exponent + e else exponent - e) rest
    else .error .malformed

/-- Whether a byte announces an exponent. -/
def isExponentMark (b : UInt8) : Bool := b = 0x65 || b = 0x45

/-- Read what may follow the digits of a number that is no integer. -/
def readScale (negative : Bool) (significand : Nat) (exponent : Int) (bytes : List UInt8) :
    Except Error (Number × List UInt8) :=
  match bytes with
  | b :: rest =>
    if isExponentMark b then readExponent negative significand exponent rest
    else finish negative significand exponent bytes
  | [] => finish negative significand exponent []

/-- Read the digits behind a decimal point. -/
def readFraction (negative : Bool) (significand : Nat) (exponent : Int) (bytes : List UInt8) :
    Except Error (Number × List UInt8) :=
  let digits := bytes.takeWhile isDigit
  let rest := bytes.dropWhile isDigit
  if digits.isEmpty then (if bytes.isEmpty then .error .unfinished else .error .malformed)
  else
    let (significand, left) := takeDigits significand digits
    readScale negative significand (exponent - (digits.length - left : Nat)) rest

/-- The integer of a sign and digits that fit 64 bits. -/
def integer (negative : Bool) (n : Nat) : Number :=
  if !negative then .natural (UInt64.ofNat n)
  else if 0 < n ∧ n ≤ 1 <<< 63 then .negative (UInt64.ofNat (n - 1))
  else .double ⟨(-(UInt64.ofNat n).toFloat).toBits⟩

/-- Read a number behind its sign. -/
def readNumber (negative : Bool) (bytes : List UInt8) : Except Error (Number × List UInt8) :=
  match bytes with
  | [] => .error .unfinished
  | b :: more =>
    if !isDigit b || (b = 0x30 && more.head?.any isDigit) then .error .malformed
    else
      let (significand, left) := takeDigits 0 (bytes.takeWhile isDigit)
      match bytes.dropWhile isDigit with
      | 0x2E :: rest => readFraction negative significand left rest
      | rest =>
        if left > 0 || rest.head?.any isExponentMark then readScale negative significand left rest
        else .ok (integer negative significand, rest)

end ModelGateway.Json

/-
Bytes as letters: base 64 with the alphabet that is safe in addresses.

Three bytes are four symbols of six bits; one or two bytes at the end are two or
three symbols, and the bits left over must be zero, so every text of symbols has one
reading.  Writing pads to a multiple of four with `=`; reading takes padding or none,
as long as it only stands where a quadruple is short of symbols.
-/
import ModelGateway.Text.Utf8

namespace ModelGateway.Base64

/-- Why a text is not base 64. -/
inductive Error
  | symbol (byte : UInt8) (offset : Nat)
  | lastSymbol (byte : UInt8) (offset : Nat)
  | length (n : Nat)
deriving DecidableEq, Repr

/-- The wording of an error. -/
def Error.message : Error → String
  | symbol b i => "Invalid symbol " ++ toString b.toNat ++ ", offset " ++ toString i ++ "."
  | lastSymbol b i => "Invalid last symbol " ++ toString b.toNat ++ ", offset " ++ toString i ++ "."
  | length n => "Invalid input length: " ++ toString n

/-- The symbol of a value below 64. -/
def symbol (n : Nat) : Char :=
  if n < 26 then Char.ofNat (0x41 + n)
  else if n < 52 then Char.ofNat (0x61 + (n - 26))
  else if n < 62 then Char.ofNat (0x30 + (n - 52))
  else if n = 62 then '-'
  else '_'

/-- The value of a symbol. -/
def value? (b : UInt8) : Option Nat :=
  let n := b.toNat
  if 0x41 ≤ n && n ≤ 0x5A then some (n - 0x41)
  else if 0x61 ≤ n && n ≤ 0x7A then some (n - 0x61 + 26)
  else if 0x30 ≤ n && n ≤ 0x39 then some (n - 0x30 + 52)
  else if n = 0x2D then some 62
  else if n = 0x5F then some 63
  else none

/-- The padding byte. -/
def pad : UInt8 := 0x3D

/-! ### Writing -/

/-- Bytes as symbols. -/
def write : List UInt8 → List Char
  | a :: b :: c :: rest =>
    let n := (a.toNat * 256 + b.toNat) * 256 + c.toNat
    symbol (n / 262144) :: symbol (n / 4096 % 64) :: symbol (n / 64 % 64) :: symbol (n % 64) ::
      write rest
  | [a, b] =>
    let n := (a.toNat * 256 + b.toNat) * 4
    [symbol (n / 4096), symbol (n / 64 % 64), symbol (n % 64), '=']
  | [a] =>
    let n := a.toNat * 16
    [symbol (n / 64), symbol (n % 64), '=', '=']
  | [] => []

/-- Bytes as text. -/
def encode (bytes : List UInt8) : String := String.ofList (write bytes)

/-! ### Reading

All quadruples but the last hold symbols only.  The last may be short, and only there
padding is looked for.
-/

/-- The value of a symbol at an offset. -/
def valueAt (offset : Nat) (b : UInt8) : Except Error Nat :=
  match value? b with
  | some n => .ok n
  | none => .error (.symbol b offset)

/-- The symbols of the last quadruple, with the padding behind them checked: none before the third
place, and nothing but padding after it. -/
def lastSymbols (offset : Nat) : Nat → List UInt8 → Except Error (List (UInt8 × Nat))
  | _, [] => .ok []
  | i, b :: rest =>
    if b = pad then
      if i < 2 || rest.any (· != pad) then .error (.symbol pad (offset + i)) else .ok []
    else do
      let n ← valueAt (offset + i) b
      let more ← lastSymbols offset (i + 1) rest
      .ok ((b, n) :: more)

/-- The bytes of the last quadruple. -/
def readLast (offset : Nat) (bytes : List UInt8) : Except Error (List UInt8) := do
  match ← lastSymbols offset 0 bytes with
  | [] => if bytes.isEmpty then .ok [] else .error (.length offset)
  | [_] => .error (.length (offset + 1))
  | [(_, a), (s, b)] =>
    let n := a * 64 + b
    if n % 16 = 0 then .ok [UInt8.ofNat (n / 16)] else .error (.lastSymbol s (offset + 1))
  | [(_, a), (_, b), (s, c)] =>
    let n := (a * 64 + b) * 64 + c
    if n % 4 = 0 then .ok [UInt8.ofNat (n / 1024), UInt8.ofNat (n / 4 % 256)]
    else .error (.lastSymbol s (offset + 2))
  | (_, a) :: (_, b) :: (_, c) :: (_, d) :: _ =>
    let n := ((a * 64 + b) * 64 + c) * 64 + d
    .ok [UInt8.ofNat (n / 65536), UInt8.ofNat (n / 256 % 256), UInt8.ofNat (n % 256)]

/-- The bytes of symbols from an offset on. -/
def readFrom (offset : Nat) : List UInt8 → Except Error (List UInt8)
  | a :: b :: c :: d :: e :: rest => do
    let a ← valueAt offset a
    let b ← valueAt (offset + 1) b
    let c ← valueAt (offset + 2) c
    let d ← valueAt (offset + 3) d
    let n := ((a * 64 + b) * 64 + c) * 64 + d
    let more ← readFrom (offset + 4) (e :: rest)
    .ok (UInt8.ofNat (n / 65536) :: UInt8.ofNat (n / 256 % 256) :: UInt8.ofNat (n % 256) :: more)
  | last => readLast offset last

/-- The bytes that a text spells.  A stray byte behind whole quadruples is reported before
anything else. -/
def decode (text : String) : Except Error (List UInt8) :=
  let bytes := Utf8.encode text.toList
  match bytes.getLast? with
  | some b =>
    if bytes.length % 4 = 1 ∧ b ≠ pad ∧ (value? b).isNone then
      .error (.symbol b (bytes.length - 1))
    else readFrom 0 bytes
  | none => .ok []

end ModelGateway.Base64

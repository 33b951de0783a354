/-
Internet addresses inside a host.

Version 4 is read generously: one to four numbers, each decimal, octal after a
leading `0` or hexadecimal after `0x`, the last one filling all bytes that the
others leave.  Version 6 is eight groups of hexadecimal digits, of which one run
may be left out as `::` and the last two may be written as a version 4 address.
Both are written in one canonical form.
-/
import ModelGateway.Text.Basic

namespace ModelGateway.Url

/-- A version 4 address. -/
structure Ipv4 where
  value : UInt32
deriving DecidableEq, Repr

/-- A version 6 address: its eight groups. -/
structure Ipv6 where
  groups : List UInt16
  eight : groups.length = 8
deriving DecidableEq, Repr

namespace Ipv4

/-- The number that the digits of a part spell: in base 16 after `0x`, in base 8 after `0`. -/
def readPart? (cs : List Char) : Option Nat :=
  let value (base : Nat) (digits : List Char) : Option Nat :=
    digits.foldl (fun n c => do
      let n ← n
      let d ← Text.hexValue? c
      if d < base then some (n * base + d) else none) (some 0)
  match cs with
  | [] => none
  | '0' :: 'x' :: digits => value 16 digits
  | '0' :: 'X' :: digits => value 16 digits
  | '0' :: c :: digits => value 8 (c :: digits)
  | digits => value 10 digits

/-- Whether a host must be read as an address: its last part is a number. -/
def isNumeric (cs : List Char) : Bool :=
  let last := match (Text.splitOn (· == '.') cs).reverse with
    | [] :: part :: _ => part
    | [] :: [] => []
    | part :: _ => part
    | [] => []
  (!last.isEmpty && last.all Text.isDigit) || (readPart? last).isSome

/-- The value of the parts: all but the last are bytes, the last fills what they leave. -/
def ofParts? (parts : List Nat) : Option Ipv4 :=
  match parts.reverse with
  | [] => none
  | last :: before =>
    if parts.length > 4 || before.any (255 < ·) then none
    else if last < 1 <<< (8 * (5 - parts.length)) then
      some ⟨UInt32.ofNat <|
        before.reverse.zipIdx.foldl (fun value (n, i) => value + n <<< (8 * (3 - i))) last⟩
    else none

/-- The address that a host spells. -/
def read? (cs : List Char) : Option Ipv4 :=
  let parts := Text.splitOn (· == '.') cs
  let parts := if parts.getLast? = some [] then parts.dropLast else parts
  (parts.mapM readPart?).bind ofParts?

/-- The four bytes of an address. -/
def bytes (ip : Ipv4) : List Nat :=
  let n := ip.value.toNat
  [n / 16777216, n / 65536 % 256, n / 256 % 256, n % 256]

/-- An address as four decimal numbers. -/
def write (ip : Ipv4) : String :=
  ".".intercalate (ip.bytes.map toString)

end Ipv4

namespace Ipv6

/-- A group of one to four hexadecimal digits. -/
def readGroup? (cs : List Char) : Option UInt16 :=
  if cs.isEmpty || 4 < cs.length then none
  else (cs.mapM Text.hexValue?).map fun ds => UInt16.ofNat (ds.foldl (fun n d => n * 16 + d) 0)

/-- One of the four numbers of an embedded version 4 address: at most 255, no leading zero. -/
def readByte? (cs : List Char) : Option Nat :=
  if cs.isEmpty || 3 < cs.length || !cs.all Text.isDigit then none
  else if cs.head? = some '0' && 1 < cs.length then none
  else
    let n := Text.decimalValue cs
    if n < 256 then some n else none

/-- The two groups of an embedded version 4 address. -/
def readDotted? (cs : List Char) : Option (List UInt16) :=
  match (Text.splitOn (· == '.') cs).mapM readByte? with
  | some [a, b, c, d] => some [UInt16.ofNat (a * 256 + b), UInt16.ofNat (c * 256 + d)]
  | _ => none

/-- Groups between colons.  Only the last may be a version 4 address, and only where allowed. -/
def readGroups? (dotted : Bool) : List (List Char) → Option (List UInt16)
  | [] => some []
  | [g] => if dotted && g.contains '.' then readDotted? g else (readGroup? g).map ([·])
  | g :: gs => do
    let first ← readGroup? g
    let rest ← readGroups? dotted gs
    some (first :: rest)

/-- The groups of a stretch of an address; an empty stretch has none. -/
def readStretch? (dotted : Bool) (cs : List Char) : Option (List UInt16) :=
  if cs.isEmpty then some [] else readGroups? dotted (Text.splitOn (· == ':') cs)

/-- The text before and after the first `::`. -/
def cutGap : List Char → Option (List Char × List Char)
  | [] => none
  | ':' :: ':' :: cs => some ([], cs)
  | c :: cs => (cutGap cs).map fun (a, b) => (c :: a, b)

/-- The address that the text between square brackets spells. -/
def read? (cs : List Char) : Option Ipv6 := do
  let groups ← match cutGap cs with
    | none => readStretch? true cs
    | some (before, after) => do
      let left ← readStretch? false before
      let right ← readStretch? true after
      let gap := 8 - (left.length + right.length)
      if gap = 0 then none else some (left ++ List.replicate gap 0 ++ right)
  if h : groups.length = 8 then some ⟨groups, h⟩ else none

/-- A group in hexadecimal without leading zeros. -/
def writeGroup (g : UInt16) : List Char :=
  Nat.toDigits 16 g.toNat

/-- How many zeros a list of groups begins with. -/
def zerosAhead (gs : List UInt16) : Nat :=
  (gs.takeWhile (· == 0)).length

/-- Where the first longest run of zeros starts, and how long it is. -/
def longestGap : Nat → List UInt16 → Nat × Nat
  | _, [] => (0, 0)
  | i, g :: gs =>
    let here := zerosAhead (g :: gs)
    let later := longestGap (i + 1) gs
    if later.2 ≤ here then (i, here) else later

/-- Groups with colons between them. -/
def writeGroups (gs : List UInt16) : List Char :=
  [':'].intercalate (gs.map writeGroup)

/-- An address with its first longest run of at least two zero groups left out. -/
def write (ip : Ipv6) : String :=
  let (start, size) := longestGap 0 ip.groups
  String.ofList <|
    if size < 2 then writeGroups ip.groups
    else writeGroups (ip.groups.take start) ++ [':', ':'] ++
      writeGroups (ip.groups.drop (start + size))

end Ipv6

end ModelGateway.Url

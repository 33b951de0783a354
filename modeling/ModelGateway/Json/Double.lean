/-
Numbers that are no integers.

Such a number is kept as the bits of a double.  It is read from its decimal digits
by one multiplication or division with a power of ten, and written with the fewest
digits that read back as the same double: for one, two, … seventeen digits the two
neighbours of the value on that decimal grid are tested against the interval of
reals that round to the value, in exact arithmetic.

Writing is positional from 10⁻⁵ up to 10¹⁶ and always shows a point; outside, the
exponent has a sign and at least two digits.
-/
import ModelGateway.Text.Basic

namespace ModelGateway.Json

/-- A finite double by its bits. -/
structure Double where
  bits : UInt64
deriving DecidableEq, Repr, Inhabited

namespace Double

/-! ### From decimal digits -/

/-- A power of ten. -/
def tenTo (n : Nat) : Float := Float.ofScientific 1 false n

/-- A number times a power of ten; nothing if the result is too large. -/
def scaled? (x : Float) (e : Int) : Option Float :=
  if 0 ≤ e then
    if e ≤ 308 then
      let y := x * tenTo e.toNat
      if y.isInf then none else some y
    else if x == 0.0 then some x
    else none
  else if -308 ≤ e then some (x / tenTo e.natAbs)
  else if x == 0.0 then some x
  else scaled? (x / tenTo 308) (e + 308)
termination_by e.natAbs
decreasing_by omega

/-- The double of a sign, a significand and a power of ten; nothing if it is too large. -/
def ofDecimal? (negative : Bool) (significand : UInt64) (exponent : Int) : Option Double :=
  (scaled? significand.toFloat exponent).map fun x => ⟨(if negative then -x else x).toBits⟩

/-- Zero with a sign. -/
def zero (negative : Bool) : Double := ⟨(if negative then -0.0 else 0.0 : Float).toBits⟩

/-! ### To decimal digits -/

/-- Whether the sign bit is set. -/
def isNegative (d : Double) : Bool := 0x8000000000000000 ≤ d.bits

/-- The bit of a significand that leads unless the value is tiny. -/
def leadBit : Nat := 1 <<< 52

/-- The significand and the power of two it is scaled by. -/
def decoded (d : Double) : Nat × Int :=
  let field : Nat := d.bits.toNat / leadBit % 2048
  let fraction : Nat := d.bits.toNat % leadBit
  if field = 0 then (fraction, -1074) else (leadBit + fraction, (field : Int) - 1075)

/-- The bounds of the reals that round to a value, as multiples of a quarter of its last place. -/
def bounds (d : Double) : Nat × Nat :=
  let (m, _) := d.decoded
  (4 * m - (if m = leadBit ∧ 2 * leadBit ≤ d.bits.toNat % (1 <<< 63) then 1 else 2), 4 * m + 2)

/-- Compare `a · 2^p` with `b · 10^k`. -/
def compareScaled (a : Nat) (p : Int) (b : Nat) (k : Int) : Ordering :=
  compare ((a * Nat.pow 10 (-k).toNat) <<< p.toNat) ((b * Nat.pow 10 k.toNat) <<< (-p).toNat)

/-- The multiple of `10^k` at or below `a · 2^p`. -/
def floorScaled (a : Nat) (p k : Int) : Nat :=
  ((a * Nat.pow 10 (-k).toNat) <<< p.toNat) / (Nat.pow 10 k.toNat <<< (-p).toNat)

/-- Whether a multiple of `10^k` rounds to the value. -/
def reads (d : Double) (n : Nat) (k : Int) : Bool :=
  let (m, q) := d.decoded
  let (low, high) := d.bounds
  let a := compareScaled low (q - 2) n k
  let b := compareScaled high (q - 2) n k
  if m % 2 = 0 then a != .gt && b != .lt else a == .lt && b == .gt

/-- The nearer of the value's two neighbours on the grid of `10^k` that read back, if one does. -/
def onGrid? (d : Double) (k : Int) : Option Nat :=
  let (m, q) := d.decoded
  let below := floorScaled m q k
  match d.reads below k, d.reads (below + 1) k with
  | true, true =>
    match compareScaled (2 * m) q (2 * below + 1) k with
    | .lt => some below
    | .gt => some (below + 1)
    | .eq => some (if below % 2 = 0 then below else below + 1)
  | true, false => some below
  | false, true => some (below + 1)
  | false, false => none

/-- The power of ten of the leading digit, found downwards from an upper estimate. -/
def leading (d : Double) : Nat → Int → Int
  | 0, e => e
  | fuel + 1, e =>
    let (m, q) := d.decoded
    if compareScaled m q 1 e == .lt then leading d fuel (e - 1) else e

/-- The fewest digits that read back, with the power of ten of the last one. -/
def shortest (d : Double) : Nat × Int :=
  let top := d.leading 700 310
  ((List.range 17).findSome? fun (i : Nat) =>
    let k := top - (i : Int)
    (d.onGrid? k).map fun n => (n, k)).getD (d.decoded.1, 0)

/-- Digits without the zeros at their end, which move into the exponent. -/
def dropZeros : Nat → Nat → Int → Nat × Int
  | 0, n, k => (n, k)
  | fuel + 1, n, k => if n ≠ 0 ∧ n % 10 = 0 then dropZeros fuel (n / 10) (k + 1) else (n, k)

/-- The text of a positive value `n · 10^k`. -/
def writeDigits (n : Nat) (k : Int) : List Char :=
  let digits := Nat.toDigits 10 n
  let size : Int := digits.length
  -- the power of ten of the leading digit
  let e := size + k - 1
  if 0 ≤ k ∧ e ≤ 15 then digits ++ List.replicate k.toNat '0' ++ ['.', '0']
  else if 0 ≤ e ∧ e ≤ 15 then digits.take (e.toNat + 1) ++ '.' :: digits.drop (e.toNat + 1)
  else if -5 ≤ e ∧ e < 0 then
    ['0', '.'] ++ List.replicate ((-e).toNat - 1) '0' ++ digits
  else
    let exponent := Nat.toDigits 10 e.natAbs
    digits.take 1 ++ (if digits.length = 1 then [] else '.' :: digits.drop 1) ++
      ['e', if 0 ≤ e then '+' else '-'] ++
      (if exponent.length = 1 then '0' :: exponent else exponent)

/-- A double as text. -/
def write (d : Double) : String :=
  let digits :=
    if d.decoded.1 = 0 then ['0', '.', '0']
    else
      let (n, k) := d.shortest
      let (n, k) := dropZeros 20 n k
      writeDigits n k
  String.ofList (if d.isNegative then '-' :: digits else digits)

end Double

end ModelGateway.Json

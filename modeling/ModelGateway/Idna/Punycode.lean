/-
Punycode (RFC 3492): a label of any characters as letters, digits and hyphens.

The ASCII characters of a label come first, then a hyphen if there are any, then
the others in ascending order, each as the number of insertion points skipped
since the last one, written in base 36 with digit weights that adapt to the sizes
seen so far.

Encoding walks the distinct code points in ascending order and, for each, the
label once; decoding walks the digits.  Every loop shrinks something it was given,
so none needs fuel.
-/
import ModelGateway.Text.Basic

namespace ModelGateway.Punycode

/-- The digit of a value below 36: letters first, then figures. -/
def digitChar (d : Nat) : Char :=
  Char.ofNat (if d < 26 then 0x61 + d else 0x30 + (d - 26))

/-- The value of a digit, either case. -/
def digitValue? (c : Char) : Option Nat :=
  let n := c.toNat
  if 0x61 ≤ n && n ≤ 0x7A then some (n - 0x61)
  else if 0x41 ≤ n && n ≤ 0x5A then some (n - 0x41)
  else if 0x30 ≤ n && n ≤ 0x39 then some (n - 0x30 + 26)
  else none

/-- The threshold of the digit at position `k`: between 1 and 26. -/
def threshold (k bias : Nat) : Nat :=
  if k ≤ bias + 1 then 1 else if bias + 26 ≤ k then 26 else k - bias

theorem threshold_pos (k bias : Nat) : 1 ≤ threshold k bias := by
  unfold threshold; split <;> (try split) <;> omega

/-- Scale a difference down below 456, counting the divisions in steps of 36. -/
def scale (delta k : Nat) : Nat × Nat :=
  if 455 < delta then scale (delta / 35) (k + 36) else (delta, k)
termination_by delta
decreasing_by exact Nat.div_lt_self (by omega) (by omega)

/-- The bias after a difference, from how many characters are placed and whether it is the first. -/
def adapt (delta count : Nat) (isFirst : Bool) : Nat :=
  let d := if isFirst then delta / 700 else delta / 2
  let (d, k) := scale (d + d / count) 0
  k + 36 * d / (d + 38)

/-! ### Encoding -/

/-- The digits of a difference, least significant first. -/
def writeDigits (bias k q : Nat) : List Char :=
  let t := threshold k bias
  if q < t then [digitChar q]
  else digitChar (t + (q - t) % (36 - t)) :: writeDigits bias (k + 36) ((q - t) / (36 - t))
termination_by q
decreasing_by
  have h1 := threshold_pos k bias
  exact Nat.lt_of_le_of_lt (Nat.div_le_self _ _) (by omega)

/-- Where an encoding stands: what is written, the pending difference, the bias and how many
characters are placed. -/
structure Writer where
  digits : List Char
  delta : Nat
  bias : Nat
  placed : Nat

/-- Pass one character of the label while placing code point `m`. -/
def Writer.pass (basic m : Nat) (w : Writer) (c : Char) : Writer :=
  if c.toNat < m then { w with delta := w.delta + 1 }
  else if c.toNat = m then
    { digits := w.digits ++ writeDigits w.bias 36 w.delta
      delta := 0
      bias := adapt w.delta (w.placed + 1) (w.placed = basic)
      placed := w.placed + 1 }
  else w

/-- Place every occurrence of code point `m`, the next one after `n`. -/
def Writer.place (label : List Char) (basic : Nat) (state : Nat × Writer) (m : Nat) : Nat × Writer :=
  let (n, w) := state
  let w := { w with delta := w.delta + (m - n) * (w.placed + 1) }
  let w := label.foldl (Writer.pass basic m) w
  (m + 1, { w with delta := w.delta + 1 })

/-- A list of code points in ascending order, each once. -/
def ascending (ns : List Nat) : List Nat :=
  (ns.mergeSort (· ≤ ·)).eraseDups

/-- A label in Punycode, without the `xn--` that announces it. -/
def encode (label : List Char) : List Char :=
  let basic := label.filter fun c => c.toNat < 0x80
  let others := ascending ((label.filter fun c => 0x80 ≤ c.toNat).map Char.toNat)
  let start : Writer := ⟨[], 0, 72, basic.length⟩
  let (_, w) := others.foldl (Writer.place label basic.length) (0x80, start)
  basic ++ (if basic.isEmpty then [] else ['-']) ++ w.digits

/-! ### Decoding -/

/-- One number off the front of the digits, with what is left; nothing if the digits stop early. -/
def readDigits (bias : Nat) : Nat → Nat → Nat → List Char → Option (Nat × List Char)
  | _, _, _, [] => none
  | k, weight, sum, c :: cs =>
    match digitValue? c with
    | none => none
    | some d =>
      let sum := sum + d * weight
      let t := threshold k bias
      if d < t then some (sum, cs) else readDigits bias (k + 36) (weight * (36 - t)) sum cs

theorem readDigits_shrinks (bias : Nat) (cs : List Char) :
    ∀ k weight sum n rest, readDigits bias k weight sum cs = some (n, rest) →
      rest.length < cs.length := by
  induction cs with
  | nil => intro k weight sum n rest h; simp [readDigits] at h
  | cons c cs ih =>
    intro k weight sum n rest h
    unfold readDigits at h
    split at h
    · simp at h
    · dsimp only at h
      split at h
      · simp only [Option.some.injEq, Prod.mk.injEq] at h
        simp [← h.2]
      · have := ih _ _ _ _ _ h
        simp only [List.length_cons]
        omega

/-- Insert the coded characters into the label so far.  `n` is the code point reached and `i`
the insertion point. -/
def insertAll (n i bias : Nat) (isFirst : Bool) (label digits : List Char) : Option (List Char) :=
  if digits.isEmpty then some label
  else
    match _h : readDigits bias 36 1 0 digits with
    | none => none
    | some (delta, rest) =>
      let size := label.length + 1
      let n := n + (i + delta) / size
      let i := (i + delta) % size
      -- what is no character, or lies beyond the range of code points, ends the label
      if n < 0x110000 ∧ ¬(0xD800 ≤ n ∧ n < 0xE000) then
        insertAll n (i + 1) (adapt delta size isFirst) false
          (label.take i ++ Char.ofNat n :: label.drop i) rest
      else none
termination_by digits.length
decreasing_by exact readDigits_shrinks _ _ _ _ _ _ _ _h

/-- The place of the last hyphen, as the text before it and the text after it. -/
def splitLastHyphen (cs : List Char) : List Char × List Char :=
  let digits := (cs.reverse.takeWhile (· != '-')).reverse
  ((cs.take (cs.length - digits.length)).dropLast, digits)

/-- The label that a Punycode text spells, if it spells one. -/
def decode? (cs : List Char) : Option (List Char) :=
  let (basic, digits) := splitLastHyphen cs
  if basic.any fun c => 0x80 ≤ c.toNat then none
  else insertAll 0x80 0 72 true basic digits

end ModelGateway.Punycode

/-
Composed normal form.

Characters built from a base and marks have one composed spelling.  To reach it a
text is taken apart, its marks are put in the order of their combining classes,
and what composes is put together again.  Hangul syllables follow an arithmetic of
their own and need no table.
-/
import ModelGateway.Unicode.Runs
import ModelGateway.Unicode.Data

namespace ModelGateway.Unicode

/-- The runs of combining classes. -/
def combiningRuns : Array Run := readRuns Data.combining

/-- The canonical combining class of a character; zero for one that starts a cluster. -/
def combiningClass (c : Char) : Nat :=
  (find combiningRuns c.toNat).args.headD 0

/-- A character and the two it is composed of. -/
structure Composite where
  whole : Nat
  first : Nat
  second : Nat
deriving Inhabited

/-- Every composite, by ascending `whole`. -/
def composites : Array Composite :=
  ((wordsOf Data.composites).foldl (fun (last, acc) word =>
    match (Text.splitOn (· == '.') word).map numeral with
    | [d, a, b] => (last + d, acc.push (⟨last + d, a, b⟩ : Composite))
    | _ => (last, acc)) (0, #[])).2

/-! ### Hangul

A syllable is a leading consonant, a vowel and perhaps a trailing consonant:
19 × 21 × 28 combinations from U+AC00 on.
-/

/-- The letters of a Hangul syllable. -/
def hangulParts? (n : Nat) : Option (List Nat) :=
  if 0xAC00 ≤ n ∧ n < 0xAC00 + 11172 then
    let s := n - 0xAC00
    let lead := 0x1100 + s / 588
    let vowel := 0x1161 + s % 588 / 28
    some (if s % 28 = 0 then [lead, vowel] else [lead, vowel, 0x11A7 + s % 28])
  else none

/-- The syllable of a leading consonant and a vowel, or of an open syllable and a trailing
consonant. -/
def hangulWhole? (a b : Nat) : Option Nat :=
  if 0x1100 ≤ a ∧ a < 0x1113 ∧ 0x1161 ≤ b ∧ b < 0x1176 then
    some (0xAC00 + ((a - 0x1100) * 21 + (b - 0x1161)) * 28)
  else if 0xAC00 ≤ a ∧ a < 0xAC00 + 11172 ∧ (a - 0xAC00) % 28 = 0 ∧ 0x11A7 < b ∧ b < 0x11C3 then
    some (a + (b - 0x11A7))
  else none

/-! ### Taking apart and putting together -/

/-- Take a character apart, its first half again up to `depth` times. -/
def decompose : Nat → Nat → List Nat
  | 0, n => [n]
  | depth + 1, n =>
    match hangulParts? n with
    | some parts => parts
    | none =>
      match composites.find? (·.whole == n) with
      | some c => decompose depth c.first ++ [c.second]
      | none => [n]

/-- The character that two others compose into. -/
def compose? (a b : Nat) : Option Nat :=
  (hangulWhole? a b).or ((composites.find? fun c => c.first == a && c.second == b).map (·.whole))

/-- Put a mark in its place among the marks before it: after every mark of no higher class. -/
def insertMark (cls n : Nat) (marks : List (Nat × Nat)) : List (Nat × Nat) :=
  marks.takeWhile (·.1 ≤ cls) ++ (cls, n) :: marks.dropWhile (·.1 ≤ cls)

/-- Marks after each starter in the order of their classes. -/
def orderMarks : List (Nat × Nat) → List Nat → List (Nat × Nat)
  | marks, [] => marks
  | marks, n :: ns =>
    let cls := combiningClass (Char.ofNat n)
    if cls = 0 then marks ++ (0, n) :: orderMarks [] ns else orderMarks (insertMark cls n marks) ns

/-- Compose what follows a starter into it.  `kept` holds, in reverse, the marks that did not
compose, so a later mark reaches the starter only past marks of lower class. -/
def composeFrom (starter : Nat) (kept : List (Nat × Nat)) : List (Nat × Nat) → List Nat
  | [] => starter :: kept.reverse.map (·.2)
  | (cls, n) :: rest =>
    let reaches := match kept with
      | [] => true
      | (last, _) :: _ => last < cls && last != 0
    match (if reaches then compose? starter n else none) with
    | some whole => composeFrom whole kept rest
    | none =>
      if cls = 0 then starter :: kept.reverse.map (·.2) ++ composeFrom n [] rest
      else composeFrom starter ((cls, n) :: kept) rest

/-- The marks that no starter precedes, then the composed rest. -/
def composeAll : List (Nat × Nat) → List Nat
  | [] => []
  | (cls, n) :: rest => if cls = 0 then composeFrom n [] rest else n :: composeAll rest

/-- A text in composed normal form. -/
def normalize (cs : List Char) : List Char :=
  let apart := cs.flatMap fun c => decompose 4 c.toNat
  (composeAll (orderMarks [] apart)).map Char.ofNat

end ModelGateway.Unicode

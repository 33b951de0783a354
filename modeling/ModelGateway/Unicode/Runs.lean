/-
Tables over code points, written as runs.

A property of code points is constant over long stretches, so a table is a list of
lines of words, one word per stretch: a count in base 36 (left out when it is one), an upper-case
letter naming the kind, and for some kinds further base-36 numbers set apart by
full stops.  The stretches follow one another from code point zero, so the place
of a word says which code points it covers.

Reading such a table gives an array sorted by first code point, and a look-up
halves it.
-/
import ModelGateway.Text.Basic

namespace ModelGateway.Unicode

/-- A stretch of code points that share a kind. -/
structure Run where
  first : Nat
  kind : Char
  args : List Nat
deriving Repr, Inhabited

/-- The value of a base-36 digit in lower case. -/
def digit (c : Char) : Nat :=
  if c.toNat < 0x61 then c.toNat - 0x30 else c.toNat - 0x61 + 10

/-- The value of a base-36 numeral. -/
def numeral (cs : List Char) : Nat :=
  cs.foldl (fun n c => n * 36 + digit c) 0

/-- One word of a table: how many code points it covers, their kind and its numbers. -/
def readWord (word : List Char) : Nat × Char × List Nat :=
  let count := word.takeWhile fun c => !c.isUpper
  let kind := (word.drop count.length).headD 'V'
  let rest := word.drop (count.length + 1)
  let args := if rest.isEmpty then [] else (Text.splitOn (· == '.') rest).map numeral
  (if count.isEmpty then 1 else numeral count, kind, args)

/-- The words of a table. -/
def wordsOf (lines : List String) : List (List Char) :=
  lines.flatMap fun line => (Text.splitOn (· == ' ') line.toList).filter (!·.isEmpty)

/-- The runs of a table, in order. -/
def readRuns (lines : List String) : Array Run :=
  ((wordsOf lines).foldl (fun (first, runs) word =>
    let (count, kind, args) := readWord word
    (first + count, runs.push ⟨first, kind, args⟩)) (0, #[])).2

/-- The last index in `[low, high)` whose run starts at or before `n`. -/
def lastAtMost (runs : Array Run) (n low high : Nat) : Nat :=
  if high ≤ low + 1 then low
  else
    let middle := (low + high) / 2
    match runs[middle]? with
    | some r =>
      if r.first ≤ n then lastAtMost runs n middle high else lastAtMost runs n low middle
    | none => low
termination_by high - low
decreasing_by all_goals omega

/-- The run that covers a code point. -/
def find (runs : Array Run) (n : Nat) : Run :=
  runs.getD (lastAtMost runs n 0 runs.size) ⟨0, 'V', []⟩

/-- The kind of a character in a table. -/
def kindOf (runs : Array Run) (c : Char) : Char :=
  (find runs c.toNat).kind

end ModelGateway.Unicode

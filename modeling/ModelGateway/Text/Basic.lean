/-
Texts as lists of characters.

Whatever the gateway reads — addresses, annotations, credentials — is examined
character by character, so the rules below are stated on `List Char`, where each
is a short recursion, and the `String` forms only convert at the edge.

Two notions of "blank" are kept apart because they are different sets.  `isBlank`
is the Unicode property White_Space, which decides what surrounds a value and what
separates names in a list.  ASCII case folding is `Char.toLower` of core, which
leaves every character beyond ASCII alone.
-/

namespace ModelGateway.Text

/-- The Unicode property White_Space. -/
def isBlank (c : Char) : Bool :=
  let n := c.toNat
  (9 ≤ n && n ≤ 13) || n == 0x20 || n == 0x85 || n == 0xA0 || n == 0x1680 ||
    (0x2000 ≤ n && n ≤ 0x200A) || n == 0x2028 || n == 0x2029 || n == 0x202F ||
    n == 0x205F || n == 0x3000

/-- Drop what satisfies `p` at the end of a list. -/
def dropEndWhile {α : Type} (p : α → Bool) (cs : List α) : List α :=
  (cs.reverse.dropWhile p).reverse

/-- Drop what satisfies `p` at both ends. -/
def stripWhile {α : Type} (p : α → Bool) (cs : List α) : List α :=
  dropEndWhile p (cs.dropWhile p)

/-- A text without the blanks around it. -/
def trim (s : String) : String :=
  String.ofList (stripWhile isBlank s.toList)

/-- A text without the blanks before it. -/
def trimStart (s : String) : String :=
  String.ofList (s.toList.dropWhile isBlank)

/-- ASCII letters in lower case, everything else untouched. -/
def lower (s : String) : String :=
  String.ofList (s.toList.map Char.toLower)

/-- Equality of texts up to the case of ASCII letters. -/
def sameLetters (a b : List Char) : Bool :=
  a.map Char.toLower == b.map Char.toLower

/-- What follows a leading `start`, if the text begins with it. -/
def dropLead? : List Char → List Char → Option (List Char)
  | [], cs => some cs
  | _ :: _, [] => none
  | s :: start, c :: cs => if s = c then dropLead? start cs else none

/-- The text up to the first character that satisfies `p`, and what follows that character. -/
def cutAt (p : Char → Bool) : List Char → Option (List Char × List Char)
  | [] => none
  | c :: cs => if p c then some ([], cs) else (cutAt p cs).map fun (a, b) => (c :: a, b)

/-- The maximal pieces of a text between the characters that satisfy `p`, empty ones included. -/
def splitOn (p : Char → Bool) : List Char → List (List Char)
  | [] => [[]]
  | c :: cs =>
    if p c then [] :: splitOn p cs
    else match splitOn p cs with
      | [] => [[c]]
      | piece :: more => (c :: piece) :: more

/-! ### Digits -/

/-- The value of a hexadecimal digit, either case. -/
def hexValue? (c : Char) : Option Nat :=
  let n := c.toNat
  if 0x30 ≤ n && n ≤ 0x39 then some (n - 0x30)
  else if 0x61 ≤ n && n ≤ 0x66 then some (n - 0x61 + 10)
  else if 0x41 ≤ n && n ≤ 0x46 then some (n - 0x41 + 10)
  else none

/-- Whether a character is one of `0` to `9`. -/
def isDigit (c : Char) : Bool :=
  0x30 ≤ c.toNat && c.toNat ≤ 0x39

/-- The value of a run of decimal digits. -/
def decimalValue (cs : List Char) : Nat :=
  cs.foldl (fun n c => n * 10 + (c.toNat - 0x30)) 0

/-- The hexadecimal digit of a value below sixteen, in upper case. -/
def hexUpper (n : Nat) : Char :=
  Char.ofNat (if n < 10 then 0x30 + n else 0x41 + (n - 10))

/-- The hexadecimal digit of a value below sixteen, in lower case. -/
def hexLower (n : Nat) : Char :=
  Char.ofNat (if n < 10 then 0x30 + n else 0x61 + (n - 10))

end ModelGateway.Text

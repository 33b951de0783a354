/-
Domain names in ASCII.

A name is mapped character by character (letters to lower case, look-alikes to one
form), composed, and cut at its full stops.  A label beyond ASCII is then written
in Punycode behind `xn--`; a label that already stands behind `xn--` must be what
that writing would have produced.  A name without either kind is only lower-cased.

The characters that would end a host inside an address are refused wherever they
come from.
-/
import ModelGateway.Idna.Label
import ModelGateway.Idna.Punycode

namespace ModelGateway.Idna

open Unicode

/-- The runs of the mapping. -/
def mappingRuns : Array Run := readRuns Data.mapping

/-- What the mapping makes of a character; nothing if the character is refused. -/
def mapChar (c : Char) : Option (List Char) :=
  let n := c.toNat
  let run := find mappingRuns n
  match run.kind, run.args with
  | 'V', _ => some [c]
  | 'I', _ => some []
  | 'U', [d] => some [Char.ofNat (n + d)]
  | 'W', [d] => some [Char.ofNat (n - d)]
  | 'A', _ => some [Char.ofNat (n + (n - run.first + 1) % 2)]
  | 'M', targets => some (targets.map Char.ofNat)
  | _, _ => none

/-- A text mapped and composed; nothing if it holds a refused character. -/
def mapText (cs : List Char) : Option (List Char) :=
  (cs.mapM mapChar).map fun pieces => normalize pieces.flatten

/-- The ASCII characters that no domain name holds. -/
def isDenied (c : Char) : Bool :=
  c.toNat ≤ 0x20 || c.toNat == 0x7F ||
    ['%', '#', '/', ':', '<', '>', '?', '@', '[', '\\', ']', '^', '|'].contains c

/-- Whether a character is ASCII. -/
def isAscii (c : Char) : Bool := c.toNat < 0x80

/-- The letters that announce a label in Punycode. -/
def acePrefix : List Char := ['x', 'n', '-', '-']

/-- A label of a mapped name, as it is written and as it is read. -/
structure Label where
  written : List Char
  read : List Char

/-- The longest label beyond ASCII that is written. -/
def longestWritten : Nat := 1000

/-- The longest label in Punycode that is read. -/
def longestRead : Nat := 2000

/-- The label behind `xn--`: it must read as a sound label that the mapping keeps and that is
not ASCII alone. -/
def readAce (label digits : List Char) : Option Label :=
  if label.all isAscii && digits.length ≤ longestRead then
    match Punycode.decode? digits with
    | some text =>
      if !text.all isAscii && mapText text == some text && isSound text then some ⟨label, text⟩
      else none
    | none => none
  else none

/-- A label of a mapped name in ASCII. -/
def writeLabel (label : List Char) : Option Label :=
  match Text.dropLead? acePrefix label with
  | some digits => readAce label digits
  | none =>
    if label.all isAscii then some ⟨label, label⟩
    else if isSound label && label.length ≤ longestWritten then
      some ⟨acePrefix ++ Punycode.encode label, label⟩
    else none

/-- Whether a name, in lower case, needs none of the tables: ASCII, and no label in Punycode. -/
def isPlain (cs : List Char) : Bool :=
  cs.all isAscii && (Text.splitOn (· == '.') cs).all fun l => (Text.dropLead? acePrefix l).isNone

/-- Labels with full stops between them. -/
def joinLabels (labels : List (List Char)) : List Char :=
  ['.'].intercalate labels

/-- A domain name in ASCII; nothing if it is not one. -/
def toAscii? (cs : List Char) : Option (List Char) :=
  let low := cs.map Char.toLower
  if isPlain low then (if low.any isDenied then none else some low)
  else
    match mapText cs with
    | none => none
    | some mapped =>
      if mapped.any isDenied then none
      else
        match (Text.splitOn (· == '.') mapped).mapM writeLabel with
        | none => none
        | some labels =>
          if (labels.any fun l => hasRightToLeft l.read) &&
              !(labels.all fun l => keepsDirection l.read) then none
          else some (joinLabels (labels.map (·.written)))

end ModelGateway.Idna

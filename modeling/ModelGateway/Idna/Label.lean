/-
Which labels of an internationalised domain name are sound.

A label of letters beyond ASCII must not begin with a combining mark; its joiners
must stand where the script gives them a meaning (RFC 5892); and as soon as one
label of a name is written from right to left, every label must keep to a single
direction (RFC 5893).
-/
import ModelGateway.Unicode.Compose

namespace ModelGateway.Idna

open Unicode

/-- The runs of combining marks. -/
def markRuns : Array Run := readRuns Data.marks

/-- The runs of joining types. -/
def joiningRuns : Array Run := readRuns Data.joining

/-- The runs of bidirectional classes. -/
def directionRuns : Array Run := readRuns Data.direction

/-- Whether a character combines with the one before it. -/
def isMark (c : Char) : Bool := kindOf markRuns c == 'M'

/-! ### Joiners -/

/-- The canonical combining class of a virama. -/
def viramaClass : Nat := 9

/-- Whether the nearest character that is not transparent joins, by its type. -/
def joins (types : List Char) (cs : List Char) : Bool :=
  match (cs.map (kindOf joiningRuns)).dropWhile (· == 'T') with
  | t :: _ => types.contains t
  | [] => false

/-- Whether every joiner has its context.  `before` holds what precedes, nearest first. -/
def joinersFit (before : List Char) : List Char → Bool
  | [] => true
  | c :: cs =>
    let afterVirama := match before with
      | b :: _ => combiningClass b == viramaClass
      | [] => false
    let fits :=
      if c = '\u200C' then afterVirama || (joins ['L', 'D'] before && joins ['R', 'D'] cs)
      else if c = '\u200D' then afterVirama
      else true
    fits && joinersFit (c :: before) cs

/-! ### Direction -/

/-- The bidirectional class of a character. -/
def direction (c : Char) : Char := kindOf directionRuns c

/-- Whether a label makes its name a right-to-left one. -/
def hasRightToLeft (label : List Char) : Bool :=
  label.any fun c => ['R', 'A', 'D'].contains (direction c)

/-- Whether a label keeps to one direction: the six conditions of RFC 5893, section 2. -/
def keepsDirection (label : List Char) : Bool :=
  let classes := label.map direction
  let last := (classes.reverse.dropWhile (· == 'N')).headD 'X'
  match classes with
  | [] => true
  | first :: _ =>
    if first == 'R' || first == 'A' then
      classes.all (['R', 'A', 'D', 'E', 'S', 'C', 'T', 'O', 'B', 'N'].contains ·) &&
        ['R', 'A', 'E', 'D'].contains last &&
        !(classes.contains 'E' && classes.contains 'D')
    else if first == 'L' then
      classes.all (['L', 'E', 'S', 'C', 'T', 'O', 'B', 'N'].contains ·) &&
        ['L', 'E'].contains last
    else false

/-- Whether a label of characters beyond ASCII is sound by itself. -/
def isSound (label : List Char) : Bool :=
  !(label.head?.any isMark) && joinersFit [] label

end ModelGateway.Idna

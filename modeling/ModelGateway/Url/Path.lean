/-
Paths as lists of segments.

A path text is cut at its slashes and walked piece by piece: a piece that spells
`.` is passed over, one that spells `..` takes back the segment before it, any
other becomes a segment in encoded form.  The walk keeps a stack, innermost segment
first, so taking back is dropping the head; a stack that is empty stays empty, which
is why no path climbs above its root.

A segment that looks like a drive letter is never taken back.  Under `file` such a
segment at the root is also brought to one form, and empty segments at the front are
dropped.
-/
import ModelGateway.Url.Basic

namespace ModelGateway.Url

/-- Characters that an address never holds: whoever wraps a long one puts them there. -/
def isLineBreak (c : Char) : Bool := c == '\t' || c == '\n' || c == '\r'

/-- A text without tabs and line breaks. -/
def unwrap (cs : List Char) : List Char := cs.filter fun c => !isLineBreak c

/-- Whether a character ends a segment. -/
def isSlash (kind : Kind) (c : Char) : Bool := c == '/' || (kind.isSpecial && c == '\\')

/-- Whether a piece spells "this segment". -/
def isDot (piece : List Char) : Bool :=
  [".", "%2e"].contains (String.ofList (piece.map Char.toLower))

/-- Whether a piece spells "the segment above". -/
def isDotDot (piece : List Char) : Bool :=
  ["..", ".%2e", "%2e.", "%2e%2e"].contains (String.ofList (piece.map Char.toLower))

/-- Whether a piece is a letter and a colon or bar. -/
def isDriveLetter : List Char → Bool
  | [c, d] => c.isAlpha && (d == ':' || d == '|')
  | _ => false

/-- Take back the innermost segment, unless it is a drive letter. -/
def climb : List String → List String
  | [] => []
  | s :: below => if isDriveLetter s.toList then s :: below else below

/-- The segment that a piece in encoded form becomes on a stack. -/
def toSegment (kind : Kind) (stack : List String) (coded : List Char) : String :=
  match kind, stack, coded with
  | .file, [], [c, d] => String.ofList (if isDriveLetter [c, d] then [c, ':'] else [c, d])
  | _, _, _ => String.ofList coded

/-- A piece that a slash follows.  What it spells is decided in encoded form. -/
def stepPiece (kind : Kind) (set : EncodeSet) (stack : List String) (piece : List Char) :
    List String :=
  let coded := percentEncode set piece
  if isDotDot coded then climb stack
  else if isDot coded then stack
  else toSegment kind stack coded :: stack

/-- The last piece: a dot leaves an empty segment behind. -/
def lastPiece (kind : Kind) (set : EncodeSet) (stack : List String) (piece : List Char) :
    List String :=
  let coded := percentEncode set piece
  if isDotDot coded then "" :: climb stack
  else if isDot coded then "" :: stack
  else toSegment kind stack coded :: stack

/-- Walk the pieces of a path. -/
def walk (kind : Kind) (set : EncodeSet) : List String → List (List Char) → List String
  | stack, [] => stack
  | stack, [piece] => lastPiece kind set stack piece
  | stack, piece :: next :: pieces => walk kind set (stepPiece kind set stack piece) (next :: pieces)

/-- Under `file`, the path begins at its first segment that is not empty. -/
def dropEmptyFront (segments : List String) : List String :=
  match segments.dropWhile (· == "") with
  | [] => [""]
  | kept => kept

/-- The pieces of a path text.  The slash it begins with is no end of a piece. -/
def pieces (kind : Kind) (text : List Char) : List (List Char) :=
  match text with
  | [] => if kind = .other then [] else [[]]
  | c :: cs => Text.splitOn (isSlash kind) (if isSlash kind c then cs else c :: cs)

/-- The segments that a path text leaves, in order. -/
def walked (kind : Kind) (text : List Char) : List String :=
  (walk kind .path [] (pieces kind text)).reverse

/-- The segments of a path text. -/
def segmentsOf (kind : Kind) (text : List Char) : List String :=
  if kind = .file then dropEmptyFront (walked kind text) else walked kind text

end ModelGateway.Url

/-
Changing one part of an address.

Each change reads a text by the rules of the part it replaces and leaves the other
parts alone.  A text that replaces a path or a query is that part in full: the
characters that would end it are encoded.  Segments and form pairs, in contrast, are
data, so everything that has a meaning in the part is encoded too.
-/
import ModelGateway.Url.Parse

namespace ModelGateway.Url

/-- A text as an address's one-text path. -/
def verbatimPath (text : List Char) : String :=
  String.ofList <| match text with
    | '/' :: rest => ['%', '2', 'F'] ++ percentEncode .controls (unwrap rest)
    | _ => percentEncode .controls (unwrap text)

/-- The address with another path. -/
def withPath (u : Url) (text : String) : Url :=
  match u.path with
  | .verbatim _ => { u with path := .verbatim (verbatimPath text.toList) }
  | .segments _ => { u with path := .segments (segmentsOf u.kind (unwrap text.toList)) }

/-- A one-text path that nothing follows does not end in blanks. -/
def Path.dropEndBlanks : Path → Path
  | .verbatim text => .verbatim (String.ofList (Text.dropEndWhile (· == ' ') text.toList))
  | .segments list => .segments list

/-- The address with another query, or without one. -/
def withQuery (u : Url) (query : Option String) : Url :=
  match query with
  | some q => { u with query := some (encodeQuery u.kind (unwrap q.toList)) }
  | none =>
    { u with query := none, path := if u.fragment = none then u.path.dropEndBlanks else u.path }

/-! ### Segments as data -/

/-- The set for a segment that is data. -/
def segmentSet (kind : Kind) : EncodeSet :=
  if kind.isSpecial then .specialSegment else .segment

/-- One more segment; `.` and `..` are no segments, and the empty path's segment is replaced. -/
def addSegment (kind : Kind) (segments : List String) (text : String) : List String :=
  if text = "." ∨ text = ".." then segments
  else
    let base := if segments = [""] then [] else segments
    let grown := (lastPiece kind (segmentSet kind) base.reverse (unwrap text.toList)).reverse
    if kind = .file then dropEmptyFront grown else grown

/-- Segments without an empty one at the end, unless it is all there is. -/
def dropEmptyEnd (segments : List String) : List String :=
  if segments.length > 1 ∧ segments.getLast? = some "" then segments.dropLast else segments

/-- The address with more segments below its path; nothing if its path has none. -/
def descend? (u : Url) (more : List String) : Option Url :=
  match u.path with
  | .verbatim _ => none
  | .segments list =>
    some { u with path := .segments (more.foldl (addSegment u.kind) (dropEmptyEnd list)) }

/-! ### Form pairs -/

/-- Whether a form writes a byte as the character it is. -/
def isFormSafe (b : UInt8) : Bool :=
  let c := Char.ofNat b.toNat
  b < 0x80 && (c.isAlphanum || ['*', '-', '.', '_'].contains c)

/-- A byte as a form writes it. -/
def formByte (b : UInt8) : List Char :=
  if b = 0x20 then ['+'] else if isFormSafe b then [Char.ofNat b.toNat] else encodeByte b

/-- A text as a form writes it. -/
def formText (s : String) : String :=
  String.ofList ((Utf8.encode s.toList).flatMap formByte)

/-- The address with one more pair at the end of its query. -/
def addPair (u : Url) (name value : String) : Url :=
  let pair := formText name ++ "=" ++ formText value
  { u with query := some (match u.query with
    | some q => if q = "" then pair else q ++ "&" ++ pair
    | none => pair) }

end ModelGateway.Url

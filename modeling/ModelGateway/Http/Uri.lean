/-
Targets of requests.

A client takes the text of a URL and reads it again by rules of its own, which are
narrower in places: it wants an authority behind a scheme, at most one port, no
escapes in a host, and no target of more than 65534 bytes.  What passes is shown
without the fragment.
-/
import ModelGateway.Text.Utf8

namespace ModelGateway

/-- The target of a request. -/
structure Uri where
  scheme : Option String := none
  /-- User, host and port; empty for none. -/
  authority : String := ""
  /-- The path as it was given, possibly empty. -/
  path : String := ""
  query : Option String := none
deriving DecidableEq, Repr

namespace Uri

/-- Why a text is no target. -/
inductive Error
  | tooLong
  | empty
  | schemeTooLong
  | invalidAuthority
  | invalidCharacter
  | invalidFormat
deriving DecidableEq, Repr

/-- The wording of an error. -/
def Error.message : Error → String
  | tooLong => "uri too long"
  | empty => "empty string"
  | schemeTooLong => "scheme too long"
  | invalidAuthority => "invalid authority"
  | invalidCharacter => "invalid uri character"
  | invalidFormat => "invalid format"

/-- The most bytes a target may have. -/
def maxSize : Nat := 65534

/-- The most characters a scheme may have. -/
def maxScheme : Nat := 64

/-- The most colons that may follow each other without a bracket or an `@`. -/
def maxColons : Nat := 8

/-- Whether a scheme may hold a character. -/
def inScheme (c : Char) : Bool :=
  c.isAlphanum || ['+', '-', '.', '~'].contains c

/-- Whether an authority may hold a character as it is. -/
def inAuthority (c : Char) : Bool :=
  c.isAlphanum || "!$&'()*+,-.:;=@[]_~".toList.contains c

/-- Whether a path may hold a character as it is. -/
def inPath (c : Char) : Bool :=
  let n := c.toNat
  n == 0x21 || (0x24 ≤ n && n ≤ 0x3B) || n == 0x3D || (0x40 ≤ n && n ≤ 0x5F) ||
    (0x61 ≤ n && n ≤ 0x7A) || n == 0x7C || 0x7E ≤ n || n == 0x22 || n == 0x7B || n == 0x7D

/-- Whether a query may hold a character as it is. -/
def inQuery (c : Char) : Bool :=
  let n := c.toNat
  n == 0x21 || (0x24 ≤ n && n ≤ 0x3B) || n == 0x3D || 0x3F ≤ n

/-! ### Schemes -/

/-- The scheme that a text begins with, and what is behind its `://`. -/
def splitScheme (cs : List Char) : Except Error (Option String × List Char) :=
  let word := cs.takeWhile inScheme
  match cs.drop word.length with
  | ':' :: '/' :: '/' :: rest =>
    if rest.isEmpty && word.isEmpty then .ok (none, cs)
    else if Text.sameLetters word "http".toList || Text.sameLetters word "https".toList then
      .ok (some (Text.lower (String.ofList word)), rest)
    else if maxScheme < word.length then .error .schemeTooLong
    else .ok (some (String.ofList word), rest)
  | _ => .ok (none, cs)

/-! ### Authorities

An authority is read once from left to right.  Whatever stands before an `@` or
between brackets may hold colons and escapes; behind them one colon is left, for the
port, and no escape.
-/

/-- What was seen of an authority. -/
structure Seen where
  colons : Nat := 0
  opened : Bool := false
  closed : Bool := false
  escape : Bool := false
  /-- Whether the last character was an `@`. -/
  bare : Bool := false

/-- See one more character. -/
def Seen.next (s : Seen) (c : Char) : Except Error Seen :=
  match c with
  | ':' => if maxColons ≤ s.colons then .error .invalidAuthority
      else .ok { s with colons := s.colons + 1, bare := false }
  | '[' => if s.escape || s.opened then .error .invalidAuthority
      else .ok { s with opened := true, bare := false }
  | ']' => if !s.opened || s.closed then .error .invalidAuthority
      else .ok { s with closed := true, colons := 0, escape := false, bare := false }
  | '@' => .ok { s with colons := 0, escape := false, bare := true }
  | '%' => .ok { s with escape := true, bare := false }
  | _ => if inAuthority c then .ok { s with bare := false } else .error .invalidCharacter

/-- Whether what was seen may end here. -/
def Seen.isWhole (s : Seen) : Bool :=
  s.opened == s.closed && s.colons ≤ 1 && !s.bare && !s.escape

/-- The authority that a text begins with, and what is behind it. -/
def splitAuthority (cs : List Char) : Except Error (String × List Char) := do
  let part := cs.takeWhile fun c => c != '/' && c != '?' && c != '#'
  let seen ← part.foldlM Seen.next {}
  if seen.isWhole then .ok (String.ofList part, cs.drop part.length) else .error .invalidAuthority

/-! ### Paths and queries -/

/-- The path and the query of a text; the fragment behind them is dropped. -/
def splitPath (cs : List Char) : Except Error (String × Option String) :=
  let path := cs.takeWhile fun c => c != '?' && c != '#'
  if !path.all inPath then .error .invalidCharacter
  else
    match cs.drop path.length with
    | '?' :: rest =>
      let query := rest.takeWhile (· != '#')
      if query.all inQuery then .ok (String.ofList path, some (String.ofList query))
      else .error .invalidCharacter
    | _ => .ok (String.ofList path, none)

/-! ### Whole targets -/

/-- The target that a text spells. -/
def parse (text : String) : Except Error Uri := do
  if maxSize < text.utf8ByteSize then .error .tooLong
  else
    match text.toList with
    | [] => .error .empty
    | ['*'] => .ok { path := "*" }
    | '/' :: cs =>
      let (path, query) ← splitPath ('/' :: cs)
      .ok { path, query }
    | cs =>
      let (scheme, rest) ← splitScheme cs
      let (authority, rest) ← splitAuthority rest
      if scheme.isNone then
        if rest.isEmpty then .ok { authority }
        else .error (if cs.length = 1 then .invalidCharacter else .invalidFormat)
      else if authority = "" then .error .invalidFormat
      else
        let (path, query) ← splitPath rest
        .ok { scheme, authority, path, query }

/-- The path that is meant: a target with a scheme has at least `/`. -/
def shownPath (u : Uri) : String :=
  if u.path = "" ∧ u.scheme.isSome then "/" else u.path

/-- A target as text. -/
def render (u : Uri) : String :=
  ((u.scheme.map (· ++ "://")).getD "") ++ u.authority ++ u.shownPath ++
    ((u.query.map ("?" ++ ·)).getD "")

/-- The host of a target, in brackets if it came in brackets. -/
def host (u : Uri) : String :=
  let behindUser := (u.authority.toList.reverse.takeWhile (· != '@')).reverse
  match behindUser with
  | '[' :: _ => String.ofList (behindUser.takeWhile (· != ']') ++ [']'])
  | cs => String.ofList (cs.takeWhile (· != ':'))

end Uri

end ModelGateway

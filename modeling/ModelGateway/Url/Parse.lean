/-
Reading an address.

The text loses the blanks and controls around it and every line break inside.  What
is left is a scheme, then — after cutting off fragment and query — an authority, if
there is one, and a path.  Nothing here resolves one address against another: a text
without a scheme is an error.
-/
import ModelGateway.Url.Host

namespace ModelGateway.Url

/-- The scheme in lower case, and what follows its colon. -/
def readScheme (cs : List Char) : Option (List Char × List Char) :=
  match cs with
  | [] => none
  | c :: _ =>
    if !c.isAlpha then none
    else
      match Text.cutAt (· == ':') cs with
      | some (name, rest) =>
        if name.all fun c => c.isAlphanum || ['+', '-', '.'].contains c then
          some (name.map Char.toLower, rest)
        else none
      | none => none

/-! ### The authority

The last `@` ends the user information, of which the first colon ends the user name.
A colon outside square brackets ends the host.
-/

/-- The text up to the last `@`, and what follows it. -/
def cutLastAt (cs : List Char) : Option (List Char × List Char) :=
  if cs.contains '@' then
    let after := (cs.reverse.takeWhile (· != '@')).reverse
    some ((cs.take (cs.length - after.length)).dropLast, after)
  else none

/-- The host text and what follows it, brackets holding colons together. -/
def cutHost : Bool → List Char → List Char × List Char
  | _, [] => ([], [])
  | inside, c :: cs =>
    if c == ':' && !inside then ([], c :: cs)
    else
      let inside := if c == '[' then true else if c == ']' then false else inside
      let (host, rest) := cutHost inside cs
      (c :: host, rest)

/-- A port number and what follows it; the implied port and no digits at all are no port. -/
def readPort (implied : Option UInt16) (cs : List Char) : Except Error (Option UInt16 × List Char) :=
  let digits := cs.takeWhile Text.isDigit
  let rest := cs.dropWhile Text.isDigit
  let value := Text.decimalValue digits
  if 65535 < value then .error .port
  else if rest.isEmpty || rest.head? = some '\\' then
    let port := UInt16.ofNat value
    .ok (if digits.isEmpty || implied = some port then none else some port, rest)
  else .error .port

/-- Host and port, and what a backslash after the port leaves for the path. -/
def readHostPort (kind : Kind) (scheme : String) (cs : List Char) :
    Except Error (Host × Option UInt16 × List Char) := do
  let (hostText, rest) := cutHost false cs
  let host ←
    if kind.isSpecial then (if hostText.isEmpty then .error .emptyHost else readHost hostText)
    else readPlainHost hostText
  match rest with
  | ':' :: portText =>
    if host = .none then .error .emptyHost
    else
      let (port, rest) ← readPort (defaultPort? scheme) portText
      .ok (host, port, rest)
  | _ => .ok (host, none, rest)

/-- An authority.  `more` says whether anything stands behind it. -/
def readAuthority (kind : Kind) (scheme : String) (more : Bool) (cs : List Char) :
    Except Error (Authority × List Char) := do
  match cutLastAt cs with
  | none =>
    let (host, port, rest) ← readHostPort kind scheme cs
    .ok (⟨"", "", host, port⟩, rest)
  | some (info, hostText) =>
    if info.isEmpty && hostText.isEmpty && more then .error .emptyHost
    else
      let (user, password) := (Text.cutAt (· == ':') info).getD (info, [])
      let user := String.ofList (percentEncode .userinfo user)
      let password := String.ofList (percentEncode .userinfo password)
      let (host, port, rest) ← readHostPort kind scheme hostText
      if host = .none && !(user == "" && password == "") then .error .emptyHost
      else .ok (⟨user, password, host, port⟩, rest)

/-! ### The rest

A fragment starts at the first `#` and a query at the first `?` before it, wherever
they stand, so both are cut off before anything else is looked at.
-/

/-- Cut a text at a character; nothing follows if the character is missing. -/
def cutOff (stop : Char) (cs : List Char) : List Char × Option (List Char) :=
  match Text.cutAt (· == stop) cs with
  | some (before, after) => (before, some after)
  | none => (cs, none)

/-- A query in encoded form. -/
def encodeQuery (kind : Kind) (cs : List Char) : String :=
  String.ofList (percentEncode (if kind.isSpecial then .specialQuery else .query) cs)

/-- A fragment in encoded form. -/
def encodeFragment (cs : List Char) : String :=
  String.ofList (percentEncode .fragment cs)

/-- The host of a `file` address: none for this machine. -/
def readFileHost (cs : List Char) : Except Error Host :=
  if cs.isEmpty then .ok .none
  else
    match readHost cs with
    | .ok (.name "localhost") => .ok .none
    | result => result

/-- Host and path of a `file` address.  A drive letter is no host, and none goes with a path that
begins with one. -/
def readFile (cs : List Char) : Except Error (Host × List String) := do
  match cs with
  | a :: b :: rest =>
    if isSlash .file a && isSlash .file b then
      let hostText := rest.takeWhile fun c => !isSlash .file c
      if isDriveLetter hostText then .ok (.none, segmentsOf .file ('/' :: rest))
      else
        let host ← readFileHost hostText
        let path := rest.drop hostText.length
        let drive := (walked .file path).head?.any fun s => isDriveLetter s.toList
        .ok (if drive then .none else host, segmentsOf .file path)
    else .ok (.none, segmentsOf .file cs)
  | _ => .ok (.none, segmentsOf .file cs)

/-- Authority and path, given everything between the scheme's colon and query or fragment. -/
def readHierarchy (kind : Kind) (scheme : String) (more : Bool) (cs : List Char) :
    Except Error (Option Authority × Path) := do
  let below (cs : List Char) : Except Error (Option Authority × Path) := do
    let text := cs.takeWhile fun c => !isSlash kind c
    let path := cs.drop text.length
    let (authority, rest) ← readAuthority kind scheme (more || !path.isEmpty) text
    .ok (some authority, .segments (segmentsOf kind (rest ++ path)))
  match kind with
  | .file =>
    let (host, segments) ← readFile cs
    .ok (some ⟨"", "", host, none⟩, .segments segments)
  | .wellKnown => below (cs.dropWhile (isSlash kind))
  | .other =>
    match cs with
    | '/' :: '/' :: rest => below rest
    | '/' :: rest => .ok (none, .segments (segmentsOf kind ('/' :: rest)))
    | _ => .ok (none, .verbatim (String.ofList (percentEncode .controls cs)))

/-- Controls and blanks that may surround an address. -/
def isPadding (c : Char) : Bool := c.toNat ≤ 0x20

/-- The address that a text spells. -/
def parse (text : String) : Except Error Url := do
  match readScheme (unwrap (Text.stripWhile isPadding text.toList)) with
  | none => .error .noBase
  | some (name, rest) =>
    let scheme := String.ofList name
    let kind := Kind.ofScheme scheme
    let (rest, fragment) := cutOff '#' rest
    let (rest, query) := cutOff '?' rest
    let (authority, path) ← readHierarchy kind scheme (query.isSome || fragment.isSome) rest
    .ok ⟨scheme, authority, path, query.map (encodeQuery kind), fragment.map encodeFragment⟩

end ModelGateway.Url

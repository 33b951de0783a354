/-
Addresses as the web knows them.

An address is kept as its parts, already in normal form: the texts inside are the
encoded ones, a path below a host is the list of its segments, and a port that the
scheme implies is not kept.  `Url.render` writes the parts down, `Url.parse` in
`Url.Parse` reads them.

Three kinds of scheme behave differently.  The well-known ones need a host and take
a backslash for a slash; `file` may lack the host; the rest take what they are
given.
-/
import ModelGateway.Url.Percent
import ModelGateway.Url.Ip

namespace ModelGateway

namespace Url

/-- What a text is not when it is no address. -/
inductive Error
  | emptyHost
  | domainName
  | port
  | ipv4
  | ipv6
  | hostCharacter
  | noBase
  | unsuitableBase
deriving DecidableEq, Repr

/-- The wording of an error. -/
def Error.message : Error → String
  | emptyHost => "empty host"
  | domainName => "invalid international domain name"
  | port => "invalid port number"
  | ipv4 => "invalid IPv4 address"
  | ipv6 => "invalid IPv6 address"
  | hostCharacter => "invalid domain character"
  | noBase => "relative URL without a base"
  | unsuitableBase => "relative URL with a cannot-be-a-base base"

/-- How a scheme treats what follows it. -/
inductive Kind
  | wellKnown
  | file
  | other
deriving DecidableEq, Repr

/-- The port that a scheme implies. -/
def defaultPort? : String → Option UInt16
  | "http" | "ws" => some 80
  | "https" | "wss" => some 443
  | "ftp" => some 21
  | _ => none

/-- The kind of a scheme. -/
def Kind.ofScheme (scheme : String) : Kind :=
  if scheme = "file" then .file
  else if (defaultPort? scheme).isSome then .wellKnown
  else .other

/-- Whether a scheme of this kind takes a backslash for a slash. -/
def Kind.isSpecial : Kind → Bool
  | .other => false
  | _ => true

/-- Who is called. -/
inductive Host
  | none
  | name (text : String)
  | ipv4 (ip : Ipv4)
  | ipv6 (ip : Ipv6)
deriving DecidableEq, Repr

/-- A host as an address shows it. -/
def Host.write : Host → String
  | none => ""
  | name text => text
  | ipv4 ip => ip.write
  | ipv6 ip => "[" ++ ip.write ++ "]"

/-- The part after `//`: who asks, whom, at which port. -/
structure Authority where
  username : String := ""
  password : String := ""
  host : Host
  port : Option UInt16
deriving DecidableEq, Repr

/-- An address without a host may have a path that is no list of segments but one text. -/
inductive Path
  | verbatim (text : String)
  | segments (list : List String)
deriving DecidableEq, Repr

/-- A path as an address shows it. -/
def Path.write : Path → String
  | verbatim text => text
  | segments list => String.join (list.map ("/" ++ ·))

end Url

/-- An address in normal form. -/
structure Url where
  scheme : String
  authority : Option Url.Authority
  path : Url.Path
  query : Option String
  fragment : Option String
deriving DecidableEq, Repr

namespace Url

/-- The kind of an address's scheme. -/
def kind (u : Url) : Kind := Kind.ofScheme u.scheme

/-- The host as text, if there is one. -/
def host? (u : Url) : Option String :=
  match u.authority with
  | some a => if a.host = .none then none else some a.host.write
  | none => none

/-- The port that is written, if one is. -/
def port? (u : Url) : Option UInt16 := u.authority.bind (·.port)

/-- The port that is called: the one written, else the one the scheme implies. -/
def effectivePort? (u : Url) : Option UInt16 := u.port?.or (defaultPort? u.scheme)

/-- Whether nothing can be resolved against an address: its path is one text. -/
def isVerbatim (u : Url) : Bool :=
  match u.path with
  | .verbatim _ => true
  | .segments _ => false

/-- The user name and password as an authority shows them. -/
def Authority.userinfo (a : Authority) : String :=
  if a.username = "" ∧ a.password = "" then ""
  else a.username ++ (if a.password = "" then "" else ":" ++ a.password) ++ "@"

/-- An authority as an address shows it. -/
def Authority.write (a : Authority) : String :=
  a.userinfo ++ a.host.write ++ (match a.port with
    | some p => ":" ++ toString p.toNat
    | none => "")

/-- What stands between scheme and path.  Without an authority, a path whose first segment is
empty is kept from looking like one by a leading `/.`. -/
def beforePath (u : Url) : String :=
  match u.authority, u.path with
  | some a, _ => "//" ++ a.write
  | none, .segments ("" :: _ :: _) => "/."
  | none, _ => ""

/-- An address as text. -/
def render (u : Url) : String :=
  u.scheme ++ ":" ++ u.beforePath ++ u.path.write ++
    (match u.query with | some q => "?" ++ q | none => "") ++
    (match u.fragment with | some f => "#" ++ f | none => "")

end Url

end ModelGateway

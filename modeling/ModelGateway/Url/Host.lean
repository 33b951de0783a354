/-
Hosts.

Under a well-known scheme a host is a domain name, percent-decoded and brought to
ASCII, unless its last label is a number: then all of it must be an address.  Under
any other scheme a host is a text with a few characters refused.  Square brackets
hold a version 6 address everywhere.
-/
import ModelGateway.Url.Path
import ModelGateway.Idna.Domain

namespace ModelGateway.Url

/-- The address between square brackets. -/
def bracketed (cs : List Char) : Except Error Host :=
  if cs.getLast? = some ']' then
    match Ipv6.read? cs.dropLast with
    | some ip => .ok (.ipv6 ip)
    | none => .error .ipv6
  else .error .ipv6

/-- The host that a text spells under a well-known scheme. -/
def readHost (cs : List Char) : Except Error Host :=
  match cs with
  | '[' :: rest => bracketed rest
  | _ =>
    match (Utf8.decodeList? (percentDecode cs)).bind fun s => Idna.toAscii? s.toList with
    | none => .error .domainName
    | some [] => .error .emptyHost
    | some domain =>
      if Ipv4.isNumeric domain then
        match Ipv4.read? domain with
        | some ip => .ok (.ipv4 ip)
        | none => .error .ipv4
      else .ok (.name (String.ofList domain))

/-- The characters that end a host or would be mistaken for an end. -/
def isHostBreaker (c : Char) : Bool :=
  ['\x00', '\t', '\n', '\r', ' ', '#', '/', ':', '<', '>', '?', '@', '[', '\\', ']', '^',
    '|'].contains c

/-- The host that a text spells under any other scheme. -/
def readPlainHost (cs : List Char) : Except Error Host :=
  match cs with
  | '[' :: rest => bracketed rest
  | [] => .ok .none
  | _ =>
    if cs.any isHostBreaker then .error .hostCharacter
    else .ok (.name (String.ofList (percentEncode .controls cs)))

end ModelGateway.Url

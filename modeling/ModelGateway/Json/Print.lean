/-
Writing a JSON document without blanks.

Only what a string cannot hold is escaped: quotes, backslashes and controls.
-/
import ModelGateway.Json.Basic

namespace ModelGateway.Json

/-- A character inside a string. -/
def writeChar (c : Char) : List Char :=
  if c = '"' then ['\\', '"']
  else if c = '\\' then ['\\', '\\']
  else if c = '\n' then ['\\', 'n']
  else if c = '\r' then ['\\', 'r']
  else if c = '\t' then ['\\', 't']
  else if c = '\x08' then ['\\', 'b']
  else if c = '\x0c' then ['\\', 'f']
  else if c.toNat < 0x20 then
    ['\\', 'u', '0', '0', Text.hexLower (c.toNat / 16), Text.hexLower (c.toNat % 16)]
  else [c]

/-- A text as a string. -/
def writeString (s : String) : List Char :=
  '"' :: s.toList.flatMap writeChar ++ ['"']

mutual

/-- A document as text. -/
def write : Json → List Char
  | .null => ['n', 'u', 'l', 'l']
  | .bool true => ['t', 'r', 'u', 'e']
  | .bool false => ['f', 'a', 'l', 's', 'e']
  | .number n => n.write.toList
  | .string s => writeString s
  | .array [] => ['[', ']']
  | .array (v :: vs) => '[' :: write v ++ writeItems vs ++ [']']
  | .object [] => ['\x7b', '\x7d']
  | .object ((n, v) :: ms) =>
    '\x7b' :: writeString n ++ ':' :: write v ++ writeMembers ms ++ ['\x7d']

/-- The items of an array behind the first, each behind its comma. -/
def writeItems : List Json → List Char
  | [] => []
  | v :: vs => ',' :: write v ++ writeItems vs

/-- The members of an object behind the first, each behind its comma. -/
def writeMembers : List (String × Json) → List Char
  | [] => []
  | (n, v) :: ms => ',' :: writeString n ++ ':' :: write v ++ writeMembers ms

end

/-- A document as text. -/
def render (v : Json) : String := String.ofList (write v)

end ModelGateway.Json

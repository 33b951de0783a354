/-
A text shown between double quotes.

Messages that quote what was received must not be garbled by it: quotes, backslashes
and the common controls are escaped by name, and any other character that shows
nothing, or only shows on the one before it, is written as its code point.
-/
import ModelGateway.Unicode.Runs
import ModelGateway.Unicode.Data

namespace ModelGateway.Text

/-- The runs of how characters show. -/
def displayRuns : Array Unicode.Run := Unicode.readRuns Unicode.Data.display

/-- A character as a quoted text shows it. -/
def quoteChar (c : Char) : List Char :=
  if c = '\x00' then ['\\', '0']
  else if c = '\t' then ['\\', 't']
  else if c = '\n' then ['\\', 'n']
  else if c = '\r' then ['\\', 'r']
  else if c = '"' then ['\\', '"']
  else if c = '\\' then ['\\', '\\']
  else if Unicode.kindOf displayRuns c == 'P' then [c]
  else ['\\', 'u', '\x7b'] ++ Nat.toDigits 16 c.toNat ++ ['\x7d']

/-- A text between double quotes. -/
def quoted (s : String) : String :=
  String.ofList ('"' :: s.toList.flatMap quoteChar ++ ['"'])

end ModelGateway.Text

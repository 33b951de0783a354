/-
What a program says when it fails.

The fault comes first, and behind it, if one is known, what caused it, set off by
blanks.
-/
import ModelGateway.Text.Basic

namespace ModelGateway.CommandLine

/-- A text with every line set off. -/
def indented (text : String) : String :=
  "\n".intercalate ((Text.splitOn (· == '\n') text.toList).map fun line =>
    "    " ++ String.ofList line)

/-- What a program says of a fault and its cause. -/
def failureReport (fault : String) (cause : Option String) : String :=
  "Error: " ++ fault ++ match cause with
    | some text => "\n\nCaused by:\n" ++ indented text
    | none => ""

end ModelGateway.CommandLine

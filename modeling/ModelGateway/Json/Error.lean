/-
What can be wrong with a JSON text.

Either the text is no JSON — it stops too early, or a character is out of place — or
it is, and says something else than was asked for.  The first two are told apart but
not described further; their wording is a mark in angle brackets.
-/
import ModelGateway.Json.Basic
import ModelGateway.Text.Quoted

namespace ModelGateway.Json

/-- Why a text or a document was refused. -/
inductive Error
  | unfinished
  | malformed
  | missingField (name : String)
  | duplicateField (name : String)
  | unknownVariant (name : String) (known : List String)
  | invalidType (found expected : String)
  | invalidValue (found expected : String)
  | invalidLength (length : Nat) (expected : String)
deriving DecidableEq, Repr

/-- A name between grave accents. -/
def ticked (name : String) : String := "`" ++ name ++ "`"

/-- The wording of an error. -/
def Error.message : Error → String
  | unfinished => "<eof>"
  | malformed => "<syntax>"
  | missingField name => "missing field " ++ ticked name
  | duplicateField name => "duplicate field " ++ ticked name
  | unknownVariant name known =>
    "unknown variant " ++ ticked name ++ ", expected " ++ " or ".intercalate (known.map ticked)
  | invalidType found expected => "invalid type: " ++ found ++ ", expected " ++ expected
  | invalidValue found expected => "invalid value: " ++ found ++ ", expected " ++ expected
  | invalidLength n expected => "invalid length " ++ toString n ++ ", expected " ++ expected

/-- How a message names a number that was found. -/
def Number.describe : Number → String
  | .double d => "floating point " ++ ticked d.write
  | n => "integer " ++ ticked n.write

/-- How a message names a text that was found. -/
def describeText (s : String) : String := "string " ++ Text.quoted s

/-- How a message names a truth value that was found. -/
def describeBool (b : Bool) : String := "boolean " ++ ticked (if b then "true" else "false")

/-- How a message names a document that was found. -/
def describe : Json → String
  | .null => "null"
  | .bool b => describeBool b
  | .number n => n.describe
  | .string s => describeText s
  | .array _ => "sequence"
  | .object _ => "map"

end ModelGateway.Json

/-
Files that hold texts.

What is read from disk here is read whole and is text or nothing: settings and
tokens.  Two things can be wrong with such a file, and each has one wording.
-/
import ModelGateway.Text.Utf8

namespace ModelGateway

/-- What files hold, by path; nothing for a file that is not there. -/
abbrev Files := String → Option ByteArray

/-- Why a file gives no text. -/
inductive FileError
  | missing
  | notText
deriving DecidableEq, Repr

/-- The wording of an error. -/
def FileError.message : FileError → String
  | missing => "No such file or directory (os error 2)"
  | notText => "stream did not contain valid UTF-8"

/-- The text that a file holds. -/
def Files.text (files : Files) (path : String) : Except FileError String :=
  match files path with
  | none => .error .missing
  | some bytes =>
    match Utf8.decode? bytes with
    | some text => .ok text
    | none => .error .notText

end ModelGateway

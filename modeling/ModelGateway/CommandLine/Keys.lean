/-
Keys and tokens from the command line.

There are two commands: one prints a fresh key, the other seals a name into what a
caller presents.  Random bytes come from outside.
-/
import ModelGateway.CommandLine.Grammar
import ModelGateway.CommandLine.Report
import ModelGateway.Credential.Token
import ModelGateway.Settings.Basic

namespace ModelGateway.CommandLine

/-- What is to be made. -/
inductive KeyCommand
  | newKey
  | mint (name key mark : String)
deriving DecidableEq, Repr

/-- What the command for a key takes. -/
def newKeyGrammar : Grammar where
  options := [helpOption]

/-- What the command for a token takes. -/
def mintGrammar : Grammar where
  options := [
    { name := "key", kind := anyValue, fallback? := "AUTH_KEY" },
    { name := "prefix", kind := anyValue },
    helpOption]
  positionals := 1

/-- What may stand before a command. -/
def outerGrammar : Grammar where
  options := [helpOption, versionOption]

/-- The names of the commands. -/
def commandNames : List String := ["new-key", "mint", "help"]

/-- Read what is to be minted. -/
def readMint (environment : String → Option String) (arguments : List String) :
    Except UsageError KeyCommand := do
  let r ← mintGrammar.read environment arguments
  match r.positionals, r.value? "key" with
  | [name], some key =>
    .ok (.mint name key ((r.value? "prefix").getD ({} : Settings).tokenLead))
  | _, _ => .error .missingArgument

/-- Read what help is wanted about: nothing, or one command. -/
def readHelp : List String → UsageError
  | [] => .help
  | [name] => if commandNames.contains name then .help else .unknownArgument
  | _ => .unknownArgument

namespace KeyCommand

/-- The command that arguments and environment spell. -/
def parse (environment : String → Option String) (arguments : List String) :
    Except UsageError KeyCommand :=
  match arguments with
  | [] => .error .missingCommand
  | "new-key" :: rest => (newKeyGrammar.read environment rest).map fun _ => newKey
  | "mint" :: rest => readMint environment rest
  | "help" :: rest => .error (readHelp rest)
  | first :: _ =>
    match outerGrammar.readArgument {} first with
    | .error e => .error e
    | .ok _ => .error .missingCommand

/-- How many random bytes a command needs. -/
def randomSize : KeyCommand → Nat
  | newKey => TokenCipher.keySize
  | mint .. => TokenCipher.nonceSize

/-- The line that a command prints, given its random bytes. -/
def output (c : KeyCommand) (random : List UInt8) : Except KeyError String :=
  match c with
  | newKey => .ok (Base64.encode random)
  | mint name key mark => (TokenCipher.ofText key).map fun cipher => mark ++ cipher.mint random name

/-- What is printed of a key that is none. -/
def report (e : KeyError) : String := failureReport e.message none

end KeyCommand

end ModelGateway.CommandLine

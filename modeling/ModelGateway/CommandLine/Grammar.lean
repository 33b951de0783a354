/-
Arguments of a program.

An argument that begins with two dashes names an option, one that begins with a single
dash spells options by their letters, and everything behind a bare `--` is taken as it
is.  A value may be attached to its option or follow it, unless it looks like an
option itself.

A value that follows is only looked at when the next option turns up or the arguments
end, so an argument that is unknown is complained of before a value that is wrong.
What the arguments leave open, the environment may fill in.
-/
import ModelGateway.Text.Basic

namespace ModelGateway.CommandLine

/-- What ends the reading of arguments. -/
inductive UsageError
  | unknownArgument
  /-- An option without its value, or with an empty one where that is none. -/
  | missingValue
  | invalidValue
  /-- An option given twice. -/
  | conflict
  /-- A value for an option that has none. -/
  | unexpectedValue
  | missingArgument
  | missingCommand
  /-- Help was asked for. -/
  | help
  /-- The version was asked for. -/
  | version
deriving DecidableEq, Repr

/-- The exit code of a program that stops there. -/
def UsageError.exitCode : UsageError → UInt32
  | help | version => 0
  | _ => 2

/-- What an option is. -/
inductive OptionKind
  | flag
  /-- One value, with what is wrong with it. -/
  | value (fault : String → Option UsageError)
  | help
  | version

/-- An option of a program. -/
structure ProgramOption where
  name : String
  letter : Option Char := none
  kind : OptionKind
  /-- The variable that gives the value if no argument does. -/
  fallback? : Option String := none

/-- Any value will do. -/
def anyValue : OptionKind := .value fun _ => none

/-- The option that asks for help. -/
def helpOption : ProgramOption := { name := "help", letter := 'h', kind := .help }

/-- The option that asks for the version. -/
def versionOption : ProgramOption := { name := "version", letter := 'V', kind := .version }

/-- What a program takes. -/
structure Grammar where
  options : List ProgramOption
  /-- How many arguments stand by themselves. -/
  positionals : Nat := 0

/-- What was read so far. -/
structure Reading where
  given : List (String × String) := []
  positionals : List String := []
  /-- The option that was named last, and the argument that followed it. -/
  pending : Option (ProgramOption × Option String) := none
  /-- Whether a bare `--` was passed. -/
  plain : Bool := false

namespace Reading

/-- The value of an option. -/
def value? (r : Reading) (name : String) : Option String :=
  (r.given.find? (·.1 == name)).map (·.2)

/-- Whether an option was given. -/
def has (r : Reading) (name : String) : Bool := (r.value? name).isSome

/-- Take a value, unless the option has one. -/
def give (r : Reading) (o : ProgramOption) (value : String) : Except UsageError Reading :=
  if r.has o.name then .error .conflict
  else
    let fault := match o.kind with
      | .value fault => fault value
      | _ => none
    match fault with
    | some e => .error e
    | none => .ok { r with given := r.given ++ [(o.name, value)] }

/-- Take the value of the option that was named last. -/
def settle (r : Reading) : Except UsageError Reading :=
  match r.pending with
  | none => .ok r
  | some (_, none) => .error .missingValue
  | some (o, some value) => { r with pending := none }.give o value

/-- Take an option that has no value. -/
def giveBare (r : Reading) (o : ProgramOption) : Except UsageError Reading := do
  let r ← r.settle
  match o.kind with
  | .help => .error .help
  | .version => .error .version
  | _ => r.give o "true"

/-- Take an option whose value may be attached or may follow. -/
def giveValue (r : Reading) (o : ProgramOption) (attached : Option String) :
    Except UsageError Reading := do
  let r ← r.settle
  match attached with
  | some value => r.give o value
  | none => .ok { r with pending := some (o, none) }

end Reading

namespace Grammar

/-- Read an argument behind its two dashes. -/
def readLong (g : Grammar) (r : Reading) (text : List Char) : Except UsageError Reading :=
  let (name, attached) := match Text.cutAt (· == '=') text with
    | some (name, value) => (String.ofList name, some (String.ofList value))
    | none => (String.ofList text, none)
  match g.options.find? (·.name == name) with
  | none => .error .unknownArgument
  | some o =>
    match o.kind with
    | .value _ => r.giveValue o attached
    | _ => if attached.isSome then .error .unexpectedValue else r.giveBare o

/-- Read the letters of an argument behind its one dash.  Behind a letter that takes a value, the
rest is the value. -/
def readLetters (g : Grammar) (r : Reading) : List Char → Except UsageError Reading
  | [] => .ok r
  | c :: cs =>
    match g.options.find? (·.letter == some c) with
    | none => .error .unknownArgument
    | some o =>
      match o.kind with
      | .value _ => r.giveValue o <| match cs with
        | [] => none
        | '=' :: value => some (String.ofList value)
        | value => some (String.ofList value)
      | _ => do g.readLetters (← r.giveBare o) cs

/-- Read an argument that stands by itself. -/
def readPositional (g : Grammar) (r : Reading) (text : String) : Except UsageError Reading :=
  if r.positionals.length < g.positionals then do
    let r ← r.settle
    .ok { r with positionals := r.positionals ++ [text] }
  else .error .unknownArgument

/-- Read an argument that names no option. -/
def readPlain (g : Grammar) (r : Reading) (text : String) : Except UsageError Reading :=
  match r.pending with
  | some (o, none) => .ok { r with pending := some (o, some text) }
  | _ => g.readPositional r text

/-- Read an argument. -/
def readArgument (g : Grammar) (r : Reading) (text : String) : Except UsageError Reading :=
  if r.plain then g.readPositional r text
  else
    match text.toList with
    | ['-', '-'] => .ok { r with plain := true }
    | '-' :: '-' :: cs => g.readLong r cs
    | ['-'] => g.readPlain r text
    | '-' :: cs => g.readLetters r cs
    | _ => g.readPlain r text

/-- Fill in an option from the environment, if it has a variable there and no argument gave it. -/
def fillIn (environment : String → Option String) (r : Reading) (o : ProgramOption) :
    Except UsageError Reading :=
  if r.has o.name then .ok r
  else
    match o.fallback?.bind environment with
    | some value => r.give o value
    | none => .ok r

/-- Read arguments, and then the environment. -/
def read (g : Grammar) (environment : String → Option String) (arguments : List String) :
    Except UsageError Reading := do
  let r ← arguments.foldlM g.readArgument {}
  let r ← r.settle
  g.options.foldlM (fillIn environment) r

end Grammar

end ModelGateway.CommandLine

/-
The gateway's program.

Arguments that begin with the name of a key command make keys and tokens; any others
describe a gateway, which is put together as far as its settings and its backends.
Here the world is read and the result is printed; nothing is decided.
-/
import ModelGateway.CommandLine.Keys
import ModelGateway.CommandLine.Server

namespace ModelGateway.Program

open CommandLine

/-- The variables that are looked at. -/
def variableNames : List String := ["PROXY_CONFIG", "PORT", "AUTH_KEY"]

/-- What the environment says of them. -/
def readEnvironment : IO (String → Option String) := do
  let found ← variableNames.mapM fun name => return (name, ← IO.getEnv name)
  return fun name => (found.find? (·.1 == name)).bind (·.2)

/-- The file of a path, if it can be read. -/
def readFile (path : String) : IO Files := do
  try
    let bytes ← IO.FS.readBinFile path
    return fun p => if p = path then some bytes else none
  catch _ => return fun _ => none

/-- Make a key or a token. -/
def runKeys (environment : String → Option String) (arguments : List String) : IO UInt32 := do
  match KeyCommand.parse environment arguments with
  | .error e => return e.exitCode
  | .ok command =>
    let random ← IO.getRandomBytes (USize.ofNat command.randomSize)
    match command.output random.toList with
    | .ok line => IO.println line; return 0
    | .error e => IO.eprintln (KeyCommand.report e); return 1

/-- Put a gateway together and say what it is. -/
def runServer (environment : String → Option String) (arguments : List String) : IO UInt32 := do
  let files ← match ServerOptions.parse environment arguments with
    | .ok o => readFile o.settingsFile
    | .error _ => pure fun _ => none
  match start environment files arguments with
  | .error e => IO.eprintln e.report; return e.exitCode
  | .ok (o, gateway) =>
    IO.println (o.host ++ ":" ++ toString o.port)
    for e in gateway.registry.endpoints do
      IO.println (e.id.text ++ " " ++ e.baseUrl.render)
    return 0

end ModelGateway.Program

open ModelGateway.Program in
/-- Make keys and tokens, or put a gateway together. -/
def main (arguments : List String) : IO UInt32 := do
  let environment ← readEnvironment
  match arguments with
  | name :: _ =>
    if ModelGateway.CommandLine.commandNames.contains name then runKeys environment arguments
    else runServer environment arguments
  | [] => runServer environment arguments

/-
Starting a gateway from the command line.

The arguments say where the settings are and how to serve; all about backends stands
in the settings.  A gateway starts if the settings can be read, every backend in them
is sound and the key is one; the first of these that fails is reported.
-/
import ModelGateway.CommandLine.Grammar
import ModelGateway.CommandLine.Report
import ModelGateway.Gateway.Basic
import ModelGateway.Endpoint.Addressing
import ModelGateway.Settings.Read

namespace ModelGateway.CommandLine

/-- How a gateway is to serve. -/
structure ServerOptions where
  settingsFile : String := "config.json"
  port : UInt16 := 8000
  /-- The address that is listened on. -/
  host : String := "0.0.0.0"
  /-- A key in place of the one in the settings. -/
  authKey : Option String := none
  /-- Whether requests are counted. -/
  metrics : Bool := false
  metricsPort : UInt16 := 9090
  /-- What the names of metrics begin with. -/
  metricsLead : String := "borg"
  /-- How many idle connections are kept for each backend. -/
  maxIdle : UInt64 := 100
  idleTimeoutSecs : UInt64 := 90
deriving DecidableEq, Repr

/-! ### Values -/

/-- A port: a number of 16 bits, where zero may have a minus sign. -/
def readPort? (text : String) : Option UInt16 :=
  match text.toList with
  | '-' :: digits => if digits ≠ [] ∧ digits.all (· == '0') then some 0 else none
  | cs => (readNumeral 65535 cs).toOption.map UInt16.ofNat

/-- A number of 64 bits. -/
def readCount? (text : String) : Option UInt64 :=
  (readNumeral (UInt64.size - 1) text.toList).toOption.map UInt64.ofNat

/-- The values that a reader reads. -/
def valueOf {α : Type} (reader : String → Option α) : OptionKind :=
  .value fun text => if (reader text).isSome then none else some .invalidValue

/-- The values that may be a path. -/
def pathValue : OptionKind := .value fun text => if text = "" then some .missingValue else none

/-! ### Arguments -/

/-- What a server takes. -/
def serverGrammar : Grammar where
  options := [
    { name := "config", letter := 'c', kind := pathValue, fallback? := "PROXY_CONFIG" },
    { name := "port", letter := 'p', kind := valueOf readPort?, fallback? := "PORT" },
    { name := "host", kind := anyValue },
    { name := "auth-key", kind := anyValue, fallback? := "AUTH_KEY" },
    { name := "metrics", letter := 'm', kind := .flag },
    { name := "metrics-port", kind := valueOf readPort? },
    { name := "metrics-prefix", kind := anyValue },
    { name := "pool-max-idle-per-host", kind := valueOf readCount? },
    { name := "pool-idle-timeout-secs", kind := valueOf readCount? },
    helpOption, versionOption]

namespace ServerOptions

/-- The options that were read. -/
def ofReading (r : Reading) : ServerOptions :=
  let start : ServerOptions := {}
  { settingsFile := (r.value? "config").getD start.settingsFile
    port := ((r.value? "port").bind readPort?).getD start.port
    host := (r.value? "host").getD start.host
    authKey := r.value? "auth-key"
    metrics := r.has "metrics"
    metricsPort := ((r.value? "metrics-port").bind readPort?).getD start.metricsPort
    metricsLead := (r.value? "metrics-prefix").getD start.metricsLead
    maxIdle := ((r.value? "pool-max-idle-per-host").bind readCount?).getD start.maxIdle
    idleTimeoutSecs :=
      ((r.value? "pool-idle-timeout-secs").bind readCount?).getD start.idleTimeoutSecs }

/-- The options that arguments and environment spell. -/
def parse (environment : String → Option String) (arguments : List String) :
    Except UsageError ServerOptions :=
  (serverGrammar.read environment arguments).map ofReading

end ServerOptions

/-! ### Starting -/

/-- Why a gateway does not start. -/
inductive StartError
  | usage (error : UsageError)
  | noSettingsFile (path : String)
  | settings (error : SettingsFileError)
  | setup (error : SetupError)
deriving DecidableEq, Repr

namespace StartError

/-- The wording of an error; a program that is used wrongly explains itself elsewhere. -/
def message : StartError → String
  | usage _ => ""
  | noSettingsFile path => "Config file '" ++ path ++ "' does not exist"
  | settings e => e.message
  | setup e => e.message

/-- What caused an error, if that is known apart from it. -/
def cause? : StartError → Option String
  | settings (.unreadable _ e) => some e.message
  | settings (.unparsable _ e) => some e.message
  | setup (.backend (.invalidEndpoint _ _ e)) => some e.message
  | _ => none

/-- What is printed. -/
def report (e : StartError) : String :=
  match e with
  | usage _ => ""
  | e => failureReport e.message e.cause?

/-- The exit code. -/
def exitCode : StartError → UInt32
  | usage e => e.exitCode
  | _ => 1

end StartError

/-- Whether the settings file that options name is there. -/
def ServerOptions.validate (o : ServerOptions) (isThere : String → Bool) :
    Except StartError ServerOptions :=
  if isThere o.settingsFile then .ok o else .error (.noSettingsFile o.settingsFile)

/-- The settings under options: a key among the options counts in place of theirs. -/
def ServerOptions.override (o : ServerOptions) (s : Settings) : Settings :=
  match o.authKey with
  | some key => { s with authKey := key }
  | none => s

/-- The options and the gateway that arguments, environment and files describe. -/
def start (environment : String → Option String) (files : Files) (arguments : List String) :
    Except StartError (ServerOptions × Gateway) := do
  let o ← (ServerOptions.parse environment arguments).mapError .usage
  let o ← o.validate fun path => (files path).isSome
  let s ← (Settings.ofFile files o.settingsFile).mapError .settings
  let gateway ← (Gateway.ofSettings (o.override s)).mapError .setup
  .ok (o, gateway)

end ModelGateway.CommandLine

/-
Reading settings.

A settings document is an object with the settings, or one whose member `borg` is
such an object; then nothing else in it counts.
-/
import ModelGateway.Settings.Basic
import ModelGateway.Json.Decode
import ModelGateway.Text.File

namespace ModelGateway

open Json (Field Shape readText readFlag readInteger readOptional readList readChoice)

/-- A text or nothing. -/
def readText? (expected : String) : Json → Except Json.Error (Option String) :=
  readOptional (readText expected)

/-- A natural number of 64 bits. -/
def readWord64 (v : Json) : Except Json.Error UInt64 :=
  (readInteger "u64" 0 (UInt64.size - 1) v).map fun i => UInt64.ofNat i.toNat

/-- A natural number of 32 bits. -/
def readWord32 (v : Json) : Except Json.Error UInt32 :=
  (readInteger "u32" 0 (UInt32.size - 1) v).map fun i => UInt32.ofNat i.toNat

/-- An integer of 64 bits. -/
def readInt64 (v : Json) : Except Json.Error Int64 :=
  (readInteger "i64" Int64.minValue.toInt Int64.maxValue.toInt v).map Int64.ofInt

/-- The policies by name. -/
def policies : List (String × Policy) := [("sequential", .sequential), ("race", .race)]

/-- The balances by name. -/
def balances : List (String × Balance) := [("in_order", .inOrder), ("round_robin", .roundRobin)]

/-- An instance in a document. -/
def InstanceSettings.shape : Shape InstanceSettings where
  title := "struct InstanceConfig"
  start := {}
  fields := [
    { name := "endpoint"
      read := fun v s => (readText? "a string" v).map fun x => { s with endpoint := x } },
    { name := "credential", aliases := ["apikey"]
      read := fun v s => (readText? "a string" v).map fun x => { s with credential := x } },
    { name := "models"
      read := fun v s => (readList (readText "a string") v).map fun x => { s with models := x } }]

/-- A source in a document. -/
def SourceSettings.shape : Shape SourceSettings where
  title := "struct DiscoverySourceConfig"
  start := { space := "", selector := "" }
  fields := [
    { name := "namespace", required := true
      read := fun v s => (readText "a string" v).map fun x => { s with space := x } },
    { name := "selector", aliases := ["label_selector"], required := true
      read := fun v s => (readText "a string" v).map fun x => { s with selector := x } },
    { name := "model_annotation_key", aliases := ["modelkey"]
      read := fun v s => (readText? "a string" v).map fun x => { s with modelKey := x } },
    { name := "credential", aliases := ["apikey"]
      read := fun v s => (readText? "a string" v).map fun x => { s with credential := x } }]

/-- How calls are spread, in a document. -/
def FanoutSettings.shape : Shape FanoutSettings where
  title := "struct DispatchSettings"
  start := {}
  fields := [
    { name := "policy"
      read := fun v s => (readChoice policies v).map fun x => { s with policy := x } },
    { name := "attempt_timeout_secs"
      read := fun v s => (readWord64 v).map fun x => { s with attemptTimeoutSecs := x } },
    { name := "balance"
      read := fun v s => (readChoice balances v).map fun x => { s with balance := x } }]

/-- How pods are found and probed, in a document. -/
def DiscoverySettings.shape : Shape DiscoverySettings where
  title := "struct DiscoverySettings"
  start := {}
  fields := [
    { name := "probe_timeout_secs"
      read := fun v s => (readWord64 v).map fun x => { s with probeTimeoutSecs := x } },
    { name := "max_probe_failures"
      read := fun v s => (readWord32 v).map fun x => { s with maxProbeFailures := x } },
    { name := "annotation_prefix"
      read := fun v s => (readText "a string" v).map fun x => { s with annotationLead := x } },
    { name := "api_server"
      read := fun v s => (readText? "a string" v).map fun x => { s with apiServer := x } },
    { name := "token_file"
      read := fun v s => (readText? "path string" v).map fun x => { s with tokenFile := x } }]

/-- Settings in a document. -/
def Settings.shape : Shape Settings where
  title := "struct ProxySettings"
  start := {}
  fields := [
    { name := "auth_key"
      read := fun v s => (readText? "a string" v).map fun x => { s with authKey := x } },
    { name := "auth_prefix"
      read := fun v s => (readText "a string" v).map fun x => { s with tokenLead := x } },
    { name := "require_token"
      read := fun v s => (readFlag v).map fun x => { s with requireToken := x } },
    { name := "update_interval"
      read := fun v s => (readOptional readInt64 v).map fun x => { s with updateInterval := x } },
    { name := "instances"
      read := fun v s =>
        (readList InstanceSettings.shape.decode v).map fun x => { s with instances := x } },
    { name := "k8s_discover"
      read := fun v s =>
        (readList SourceSettings.shape.decode v).map fun x => { s with sources := x } },
    { name := "dispatch"
      read := fun v s => (FanoutSettings.shape.decode v).map fun x => { s with dispatch := x } },
    { name := "discovery"
      read := fun v s => (DiscoverySettings.shape.decode v).map fun x => { s with discovery := x } }]

/-- The settings of a document. -/
def Settings.ofJson (document : Json) : Except Json.Error Settings :=
  Settings.shape.decode ((document.member? "borg").getD document)

/-- The settings that a text spells. -/
def Settings.parse (text : String) : Except Json.Error Settings := do
  Settings.ofJson (← Json.parse text)

/-- Why a settings file gives no settings. -/
inductive SettingsFileError
  | unreadable (path : String) (error : FileError)
  | unparsable (path : String) (error : Json.Error)
deriving DecidableEq, Repr

/-- The wording of an error. -/
def SettingsFileError.message : SettingsFileError → String
  | unreadable path e => "failed to read config file " ++ path ++ ": " ++ e.message
  | unparsable path e => "failed to parse config file " ++ path ++ ": " ++ e.message

/-- The settings in a file. -/
def Settings.ofFile (files : Files) (path : String) : Except SettingsFileError Settings := do
  let text ← (files.text path).mapError (.unreadable path)
  (Settings.parse text).mapError (.unparsable path)

end ModelGateway

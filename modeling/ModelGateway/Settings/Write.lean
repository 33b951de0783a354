/-
Writing settings.

Every setting is written under the name it is shown by, those that are left out as
`null`, so what is written reads back as the same settings.
-/
import ModelGateway.Settings.Read
import ModelGateway.Json.Print

namespace ModelGateway

/-- The name of a value among choices. -/
def nameOf {α : Type} [BEq α] (choices : List (String × α)) (x : α) : Json :=
  .string (((choices.find? (·.2 == x)).map (·.1)).getD "")

/-- An instance as a document. -/
def InstanceSettings.toJson (s : InstanceSettings) : Json :=
  Json.ofMembers [
    ("endpoint", Json.ofText? s.endpoint),
    ("credential", Json.ofText? s.credential),
    ("models", .array (s.models.map .string))]

/-- A source as a document. -/
def SourceSettings.toJson (s : SourceSettings) : Json :=
  Json.ofMembers [
    ("namespace", .string s.space),
    ("selector", .string s.selector),
    ("model_annotation_key", Json.ofText? s.modelKey),
    ("credential", Json.ofText? s.credential)]

/-- How calls are spread, as a document. -/
def FanoutSettings.toJson (s : FanoutSettings) : Json :=
  Json.ofMembers [
    ("policy", nameOf policies s.policy),
    ("attempt_timeout_secs", Json.ofNat s.attemptTimeoutSecs.toNat),
    ("balance", nameOf balances s.balance)]

/-- How pods are found and probed, as a document. -/
def DiscoverySettings.toJson (s : DiscoverySettings) : Json :=
  Json.ofMembers [
    ("probe_timeout_secs", Json.ofNat s.probeTimeoutSecs.toNat),
    ("max_probe_failures", Json.ofNat s.maxProbeFailures.toNat),
    ("annotation_prefix", .string s.annotationLead),
    ("api_server", Json.ofText? s.apiServer),
    ("token_file", Json.ofText? s.tokenFile)]

/-- Settings as a document. -/
def Settings.toJson (s : Settings) : Json :=
  Json.ofMembers [
    ("auth_key", Json.ofText? s.authKey),
    ("auth_prefix", .string s.tokenLead),
    ("require_token", .bool s.requireToken),
    ("update_interval", match s.updateInterval with
      | some i => Json.ofInt i.toInt
      | none => .null),
    ("instances", .array (s.instances.map (·.toJson))),
    ("k8s_discover", .array (s.sources.map (·.toJson))),
    ("dispatch", s.dispatch.toJson),
    ("discovery", s.discovery.toJson)]

/-- Settings as text. -/
def Settings.render (s : Settings) : String := s.toJson.render

end ModelGateway

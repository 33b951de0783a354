/-
Documents that state settings.

Each record is given by its entries in the order they are declared: what tells an entry is
what is written for it, a few go by the names of an older format, and an entry that equals
its default need not be told.  Only where a source looks has no default.
-/
import ModelGateway.Proofs.Json.Decode
import ModelGateway.Settings.Write

namespace ModelGateway

open Json (Entry Shape States)

/-! ### Values -/

theorem readText_string (expected x : String) : Json.readText expected (.string x) = .ok x := rfl

theorem readText?_ofText? (expected : String) (x : Option String) :
    readText? expected (Json.ofText? x) = .ok x := by
  cases x <;> rfl

theorem readList_texts (expected : String) (xs : List String) :
    Json.readList (Json.readText expected) (.array (xs.map .string)) = .ok xs := by
  refine Json.readList_of_forall₂ ?_
  rw [List.forall₂_map_right_iff, List.forall₂_same]
  exact fun _ _ => rfl

theorem readWord64_ofNat (n : UInt64) : readWord64 (Json.ofNat n.toNat) = .ok n := by
  have hn : n.toNat < 2 ^ 64 := n.toNat_lt
  have hsize : (UInt64.size : Int) = 2 ^ 64 := rfl
  have hread : Json.readInteger "u64" 0 (UInt64.size - 1) (Json.ofInt n.toNat) = .ok n.toNat :=
    Json.readInteger_ofInt (by omega) (by omega)
  show (Json.readInteger "u64" 0 (UInt64.size - 1) (Json.ofInt n.toNat)).map _ = _
  rw [hread]
  simp [Except.map]

theorem readWord32_ofNat (n : UInt32) : readWord32 (Json.ofNat n.toNat) = .ok n := by
  have hn : n.toNat < 2 ^ 32 := n.toNat_lt
  have hsize : (UInt32.size : Int) = 2 ^ 32 := rfl
  have hword : UInt64.size = 2 ^ 64 := rfl
  have hread : Json.readInteger "u32" 0 (UInt32.size - 1) (Json.ofInt n.toNat) = .ok n.toNat :=
    Json.readInteger_ofInt (by omega) (by omega)
  show (Json.readInteger "u32" 0 (UInt32.size - 1) (Json.ofInt n.toNat)).map _ = _
  rw [hread]
  simp [Except.map]

/-- An integer of 64 bits or nothing, as it is written. -/
def intOrNull (i : Option Int64) : Json :=
  match i with
  | some i => Json.ofInt i.toInt
  | none => .null

theorem readOptional_intOrNull (i : Option Int64) :
    Json.readOptional readInt64 (intOrNull i) = .ok i := by
  cases i with
  | none => rfl
  | some i =>
    have hlow : -2 ^ 63 ≤ i.toInt := i.le_toInt
    have hhigh : i.toInt < 2 ^ 63 := i.toInt_lt
    have hword : UInt64.size = 2 ^ 64 := rfl
    have hread : Json.readInteger "i64" Int64.minValue.toInt Int64.maxValue.toInt
        (Json.ofInt i.toInt) = .ok i.toInt :=
      Json.readInteger_ofInt (by omega) ⟨hlow, Int.le_of_lt_add_one hhigh⟩
    refine Json.readOptional_some ?_ ?_
    · rw [intOrNull]
      cases i.toInt <;> nofun
    · show (Json.readInteger "i64" _ _ (Json.ofInt i.toInt)).map _ = _
      rw [hread]
      simp [Except.map]

theorem readPolicy_nameOf (p : Policy) : Json.readChoice policies (nameOf policies p) = .ok p := by
  cases p <;> rfl

theorem readBalance_nameOf (b : Balance) :
    Json.readChoice balances (nameOf balances b) = .ok b := by
  cases b <;> rfl

/-- What was told is as meant, and what was not told is as usual. -/
theorem ite_of_told {α : Type} {told : Prop} [Decidable told] {x usual : α}
    (h : x = usual ∨ told) : (if told then x else usual) = x := by
  split
  · rfl
  · next hnot => exact (h.resolve_right hnot).symm

/-! ### Instances -/

namespace InstanceSettings

variable (s : InstanceSettings)

/-- What a document may say of an instance. -/
def entries : List Entry := [
  { name := "endpoint"
    tells := (· = Json.ofText? s.endpoint), usual := s.endpoint = none },
  { name := "credential", aliases := ["apikey"]
    tells := (· = Json.ofText? s.credential), usual := s.credential = none },
  { name := "models"
    tells := (· = .array (s.models.map .string)), usual := s.models = [] }]

/-- The instance as far as it was told. -/
def mixed (seen : List String) : InstanceSettings where
  endpoint := if "endpoint" ∈ seen then s.endpoint else none
  credential := if "credential" ∈ seen then s.credential else none
  models := if "models" ∈ seen then s.models else []

theorem distinct : s.entries.Pairwise fun e k => ∀ n ∈ e.names, n ∉ k.names := by
  simp [entries, Entry.names]

theorem reads : shape.Reads s s.entries s.mixed where
  distinct := s.distinct
  fields := by
    refine .cons ⟨rfl, rfl, nofun, ?_⟩ <| .cons ⟨rfl, rfl, nofun, ?_⟩ <|
      .cons ⟨rfl, rfl, nofun, ?_⟩ .nil
    · rintro _ rfl seen
      simp [readText?_ofText?, mixed, Except.map]
    · rintro _ rfl seen
      simp [readText?_ofText?, mixed, Except.map]
    · rintro _ rfl seen
      simp [readList_texts, mixed, Except.map]
  starts := rfl
  ends seen h := by
    simp only [entries, List.forall_mem_cons] at h
    obtain ⟨hendpoint, hcredential, hmodels, -⟩ := h
    rw [mixed, ite_of_told hendpoint, ite_of_told hcredential, ite_of_told hmodels]

theorem states_toJson : States s.entries s.toJson :=
  ⟨_, rfl, Json.stated_of_forall₂ s.distinct <|
    .cons ⟨rfl, rfl⟩ <| .cons ⟨rfl, rfl⟩ <| .cons ⟨rfl, rfl⟩ .nil⟩

end InstanceSettings

/-! ### Sources -/

namespace SourceSettings

variable (s : SourceSettings)

/-- What a document may say of a source. -/
def entries : List Entry := [
  { name := "namespace"
    tells := (· = .string s.space), usual := False },
  { name := "selector", aliases := ["label_selector"]
    tells := (· = .string s.selector), usual := False },
  { name := "model_annotation_key", aliases := ["modelkey"]
    tells := (· = Json.ofText? s.modelKey), usual := s.modelKey = none },
  { name := "credential", aliases := ["apikey"]
    tells := (· = Json.ofText? s.credential), usual := s.credential = none }]

/-- The source as far as it was told. -/
def mixed (seen : List String) : SourceSettings where
  space := if "namespace" ∈ seen then s.space else ""
  selector := if "selector" ∈ seen then s.selector else ""
  modelKey := if "model_annotation_key" ∈ seen then s.modelKey else none
  credential := if "credential" ∈ seen then s.credential else none

theorem distinct : s.entries.Pairwise fun e k => ∀ n ∈ e.names, n ∉ k.names := by
  simp [entries, Entry.names]

theorem reads : shape.Reads s s.entries s.mixed where
  distinct := s.distinct
  fields := by
    refine .cons ⟨rfl, rfl, fun _ => id, ?_⟩ <| .cons ⟨rfl, rfl, fun _ => id, ?_⟩ <|
      .cons ⟨rfl, rfl, nofun, ?_⟩ <| .cons ⟨rfl, rfl, nofun, ?_⟩ .nil
    · rintro _ rfl seen
      simp [readText_string, mixed, Except.map]
    · rintro _ rfl seen
      simp [readText_string, mixed, Except.map]
    · rintro _ rfl seen
      simp [readText?_ofText?, mixed, Except.map]
    · rintro _ rfl seen
      simp [readText?_ofText?, mixed, Except.map]
  starts := rfl
  ends seen h := by
    simp only [entries, List.forall_mem_cons] at h
    obtain ⟨hspace, hselector, hmodelKey, hcredential, -⟩ := h
    rw [mixed, ite_of_told (hspace.imp_left False.elim),
      ite_of_told (hselector.imp_left False.elim), ite_of_told hmodelKey, ite_of_told hcredential]

theorem states_toJson : States s.entries s.toJson :=
  ⟨_, rfl, Json.stated_of_forall₂ s.distinct <|
    .cons ⟨rfl, rfl⟩ <| .cons ⟨rfl, rfl⟩ <| .cons ⟨rfl, rfl⟩ <| .cons ⟨rfl, rfl⟩ .nil⟩

end SourceSettings

/-! ### How calls are spread -/

namespace FanoutSettings

variable (s : FanoutSettings)

/-- What a document may say of how calls are spread. -/
def entries : List Entry := [
  { name := "policy"
    tells := (· = nameOf policies s.policy), usual := s.policy = .sequential },
  { name := "attempt_timeout_secs"
    tells := (· = Json.ofNat s.attemptTimeoutSecs.toNat), usual := s.attemptTimeoutSecs = 30 },
  { name := "balance"
    tells := (· = nameOf balances s.balance), usual := s.balance = .roundRobin }]

/-- What was told of how calls are spread. -/
def mixed (seen : List String) : FanoutSettings where
  policy := if "policy" ∈ seen then s.policy else .sequential
  attemptTimeoutSecs := if "attempt_timeout_secs" ∈ seen then s.attemptTimeoutSecs else 30
  balance := if "balance" ∈ seen then s.balance else .roundRobin

theorem distinct : s.entries.Pairwise fun e k => ∀ n ∈ e.names, n ∉ k.names := by
  simp [entries, Entry.names]

theorem reads : shape.Reads s s.entries s.mixed where
  distinct := s.distinct
  fields := by
    refine .cons ⟨rfl, rfl, nofun, ?_⟩ <| .cons ⟨rfl, rfl, nofun, ?_⟩ <|
      .cons ⟨rfl, rfl, nofun, ?_⟩ .nil
    · rintro _ rfl seen
      simp [readPolicy_nameOf, mixed, Except.map]
    · rintro _ rfl seen
      simp [readWord64_ofNat, mixed, Except.map]
    · rintro _ rfl seen
      simp [readBalance_nameOf, mixed, Except.map]
  starts := rfl
  ends seen h := by
    simp only [entries, List.forall_mem_cons] at h
    obtain ⟨hpolicy, htimeout, hbalance, -⟩ := h
    rw [mixed, ite_of_told hpolicy, ite_of_told htimeout, ite_of_told hbalance]

theorem states_toJson : States s.entries s.toJson :=
  ⟨_, rfl, Json.stated_of_forall₂ s.distinct <|
    .cons ⟨rfl, rfl⟩ <| .cons ⟨rfl, rfl⟩ <| .cons ⟨rfl, rfl⟩ .nil⟩

end FanoutSettings

/-! ### How pods are found and probed -/

namespace DiscoverySettings

variable (s : DiscoverySettings)

/-- What a document may say of how pods are found and probed. -/
def entries : List Entry := [
  { name := "probe_timeout_secs"
    tells := (· = Json.ofNat s.probeTimeoutSecs.toNat), usual := s.probeTimeoutSecs = 5 },
  { name := "max_probe_failures"
    tells := (· = Json.ofNat s.maxProbeFailures.toNat), usual := s.maxProbeFailures = 3 },
  { name := "annotation_prefix"
    tells := (· = .string s.annotationLead), usual := s.annotationLead = "borg/" },
  { name := "api_server"
    tells := (· = Json.ofText? s.apiServer), usual := s.apiServer = none },
  { name := "token_file"
    tells := (· = Json.ofText? s.tokenFile), usual := s.tokenFile = none }]

/-- What was told of how pods are found and probed. -/
def mixed (seen : List String) : DiscoverySettings where
  probeTimeoutSecs := if "probe_timeout_secs" ∈ seen then s.probeTimeoutSecs else 5
  maxProbeFailures := if "max_probe_failures" ∈ seen then s.maxProbeFailures else 3
  annotationLead := if "annotation_prefix" ∈ seen then s.annotationLead else "borg/"
  apiServer := if "api_server" ∈ seen then s.apiServer else none
  tokenFile := if "token_file" ∈ seen then s.tokenFile else none

theorem distinct : s.entries.Pairwise fun e k => ∀ n ∈ e.names, n ∉ k.names := by
  simp [entries, Entry.names]

theorem reads : shape.Reads s s.entries s.mixed where
  distinct := s.distinct
  fields := by
    refine .cons ⟨rfl, rfl, nofun, ?_⟩ <| .cons ⟨rfl, rfl, nofun, ?_⟩ <|
      .cons ⟨rfl, rfl, nofun, ?_⟩ <| .cons ⟨rfl, rfl, nofun, ?_⟩ <|
      .cons ⟨rfl, rfl, nofun, ?_⟩ .nil
    · rintro _ rfl seen
      simp [readWord64_ofNat, mixed, Except.map]
    · rintro _ rfl seen
      simp [readWord32_ofNat, mixed, Except.map]
    · rintro _ rfl seen
      simp [readText_string, mixed, Except.map]
    · rintro _ rfl seen
      simp [readText?_ofText?, mixed, Except.map]
    · rintro _ rfl seen
      simp [readText?_ofText?, mixed, Except.map]
  starts := rfl
  ends seen h := by
    simp only [entries, List.forall_mem_cons] at h
    obtain ⟨htimeout, hfailures, hlead, hserver, hfile, -⟩ := h
    rw [mixed, ite_of_told htimeout, ite_of_told hfailures, ite_of_told hlead, ite_of_told hserver,
      ite_of_told hfile]

theorem states_toJson : States s.entries s.toJson :=
  ⟨_, rfl, Json.stated_of_forall₂ s.distinct <|
    .cons ⟨rfl, rfl⟩ <| .cons ⟨rfl, rfl⟩ <| .cons ⟨rfl, rfl⟩ <| .cons ⟨rfl, rfl⟩ <|
    .cons ⟨rfl, rfl⟩ .nil⟩

end DiscoverySettings

/-! ### Settings -/

namespace Settings

variable (s : Settings)

/-- What a document may say of settings. -/
def entries : List Entry := [
  { name := "auth_key"
    tells := (· = Json.ofText? s.authKey), usual := s.authKey = none },
  { name := "auth_prefix"
    tells := (· = .string s.tokenLead), usual := s.tokenLead = "BORG:" },
  { name := "require_token"
    tells := (· = .bool s.requireToken), usual := s.requireToken = false },
  { name := "update_interval"
    tells := (· = intOrNull s.updateInterval), usual := s.updateInterval = none },
  { name := "instances"
    tells := fun v => ∃ docs, v = .array docs ∧ s.instances.Forall₂ (fun i => States i.entries) docs
    usual := s.instances = [] },
  { name := "k8s_discover"
    tells := fun v => ∃ docs, v = .array docs ∧ s.sources.Forall₂ (fun d => States d.entries) docs
    usual := s.sources = [] },
  { name := "dispatch"
    tells := States s.dispatch.entries, usual := s.dispatch = {} },
  { name := "discovery"
    tells := States s.discovery.entries, usual := s.discovery = {} }]

/-- The settings as far as they were told. -/
def mixed (seen : List String) : Settings where
  authKey := if "auth_key" ∈ seen then s.authKey else none
  tokenLead := if "auth_prefix" ∈ seen then s.tokenLead else "BORG:"
  requireToken := if "require_token" ∈ seen then s.requireToken else false
  updateInterval := if "update_interval" ∈ seen then s.updateInterval else none
  instances := if "instances" ∈ seen then s.instances else []
  sources := if "k8s_discover" ∈ seen then s.sources else []
  dispatch := if "dispatch" ∈ seen then s.dispatch else {}
  discovery := if "discovery" ∈ seen then s.discovery else {}

theorem distinct : s.entries.Pairwise fun e k => ∀ n ∈ e.names, n ∉ k.names := by
  simp [entries, Entry.names]

theorem reads : shape.Reads s s.entries s.mixed where
  distinct := s.distinct
  fields := by
    refine .cons ⟨rfl, rfl, nofun, ?_⟩ <| .cons ⟨rfl, rfl, nofun, ?_⟩ <|
      .cons ⟨rfl, rfl, nofun, ?_⟩ <| .cons ⟨rfl, rfl, nofun, ?_⟩ <|
      .cons ⟨rfl, rfl, nofun, ?_⟩ <| .cons ⟨rfl, rfl, nofun, ?_⟩ <|
      .cons ⟨rfl, rfl, nofun, ?_⟩ <| .cons ⟨rfl, rfl, nofun, ?_⟩ .nil
    · rintro _ rfl seen
      simp [readText?_ofText?, mixed, Except.map]
    · rintro _ rfl seen
      simp [readText_string, mixed, Except.map]
    · rintro _ rfl seen
      simp [Json.readFlag, mixed, Except.map]
    · rintro _ rfl seen
      simp [readOptional_intOrNull, mixed, Except.map]
    · rintro _ ⟨docs, rfl, hdocs⟩ seen
      have hread := Json.readList_of_forall₂ (hdocs.imp fun i _ h => i.reads.decode h)
      simp [hread, mixed, Except.map]
    · rintro _ ⟨docs, rfl, hdocs⟩ seen
      have hread := Json.readList_of_forall₂ (hdocs.imp fun d _ h => d.reads.decode h)
      simp [hread, mixed, Except.map]
    · intro v hv seen
      simp [s.dispatch.reads.decode hv, mixed, Except.map]
    · intro v hv seen
      simp [s.discovery.reads.decode hv, mixed, Except.map]
  starts := rfl
  ends seen h := by
    simp only [entries, List.forall_mem_cons] at h
    obtain ⟨hkey, hlead, htoken, hinterval, hinstances, hsources, hdispatch, hdiscovery, -⟩ := h
    rw [mixed, ite_of_told hkey, ite_of_told hlead, ite_of_told htoken, ite_of_told hinterval,
      ite_of_told hinstances, ite_of_told hsources, ite_of_told hdispatch, ite_of_told hdiscovery]

theorem states_toJson : States s.entries s.toJson := by
  refine ⟨_, rfl, Json.stated_of_forall₂ s.distinct <|
    .cons ⟨rfl, rfl⟩ <| .cons ⟨rfl, rfl⟩ <| .cons ⟨rfl, rfl⟩ <| .cons ⟨rfl, rfl⟩ <|
    .cons ⟨rfl, _, rfl, ?_⟩ <| .cons ⟨rfl, _, rfl, ?_⟩ <|
    .cons ⟨rfl, s.dispatch.states_toJson⟩ <| .cons ⟨rfl, s.discovery.states_toJson⟩ .nil⟩
  · rw [List.forall₂_map_right_iff, List.forall₂_same]
    exact fun i _ => i.states_toJson
  · rw [List.forall₂_map_right_iff, List.forall₂_same]
    exact fun d _ => d.states_toJson

end Settings

end ModelGateway

/-
Settings are read back.

Whatever document states some settings is read as them, and every text that spells such a
document is.  What is written for some settings is one of these texts.  The document may
also stand under the name of the gateway in an object of which nothing else counts, as long
as all of it can be read.
-/
import ModelGateway.Proofs.Json.Spelling
import ModelGateway.Proofs.Settings.Stating

namespace ModelGateway

open Json (Gap IsSpelling IsWritten ObjectWith Spells States isWritten_ofMembers isWritten_array
  isWritten_string isWritten_ofNat isWritten_bool)

/-! ### What is written -/

section
variable {depth : Nat}

theorem isWritten_ofText? (x : Option String) : IsWritten depth (Json.ofText? x) := by
  cases x with
  | none => exact Json.isWritten_null
  | some x => exact isWritten_string x

theorem isWritten_intOrNull (i : Option Int64) : IsWritten depth (intOrNull i) := by
  cases i with
  | none => exact Json.isWritten_null
  | some i => exact Json.isWritten_ofInt i

theorem isWritten_word (n : Nat) (h : n < 2 ^ 64) : IsWritten depth (Json.ofNat n) :=
  isWritten_ofNat (Nat.le_of_lt_succ h)

theorem InstanceSettings.isWritten (s : InstanceSettings) : IsWritten (depth + 2) s.toJson := by
  refine isWritten_ofMembers ?_
  simp only [List.forall_mem_cons]
  refine ⟨isWritten_ofText? _, isWritten_ofText? _, isWritten_array ?_, by simp⟩
  exact List.forall_mem_map.mpr fun x _ => isWritten_string x

theorem SourceSettings.isWritten (s : SourceSettings) : IsWritten (depth + 1) s.toJson := by
  refine isWritten_ofMembers ?_
  simp only [List.forall_mem_cons]
  exact ⟨isWritten_string _, isWritten_string _, isWritten_ofText? _, isWritten_ofText? _, by simp⟩

theorem FanoutSettings.isWritten (s : FanoutSettings) : IsWritten (depth + 1) s.toJson := by
  refine isWritten_ofMembers ?_
  simp only [List.forall_mem_cons]
  exact ⟨isWritten_string _, isWritten_word _ s.attemptTimeoutSecs.toNat_lt, isWritten_string _,
    by simp⟩

theorem DiscoverySettings.isWritten (s : DiscoverySettings) : IsWritten (depth + 1) s.toJson := by
  refine isWritten_ofMembers ?_
  simp only [List.forall_mem_cons]
  have hfailures : s.maxProbeFailures.toNat < 2 ^ 64 :=
    Nat.lt_trans s.maxProbeFailures.toNat_lt (by decide)
  exact ⟨isWritten_word _ s.probeTimeoutSecs.toNat_lt, isWritten_word _ hfailures,
    isWritten_string _, isWritten_ofText? _, isWritten_ofText? _, by simp⟩

/-- Settings nest four deep: their instances are objects in a list and have a list of models. -/
theorem Settings.isWritten (s : Settings) : IsWritten (depth + 4) s.toJson := by
  refine isWritten_ofMembers ?_
  simp only [List.forall_mem_cons]
  refine ⟨isWritten_ofText? _, isWritten_string _, isWritten_bool _,
    isWritten_intOrNull s.updateInterval, isWritten_array ?_, isWritten_array ?_,
    s.dispatch.isWritten, s.discovery.isWritten, by simp⟩
  · exact List.forall_mem_map.mpr fun i _ => i.isWritten
  · exact List.forall_mem_map.mpr fun d _ => d.isWritten

end

/-! ### What is read -/

namespace Settings

variable {s : Settings} {doc : Json} {text : String}

theorem isSpelling_render (s : Settings) : IsSpelling s.render s.toJson := by
  have hspells : IsWritten (123 + 4) s.toJson := s.isWritten
  refine ⟨Gap.none, Utf8.encode s.toJson.write, Gap.none, ?_, hspells⟩
  simp [render, Json.render, Gap.none]

/-- No setting has the name under which settings may stand. -/
theorem member?_of_states (h : States s.entries doc) : doc.member? "borg" = none := by
  obtain ⟨members, rfl, hstated⟩ := h
  refine Json.member?_ofMembers_eq_none fun m hm hname => ?_
  have hnone : ∀ e ∈ s.entries, "borg" ∉ e.names := by simp [entries, Json.Entry.names]
  obtain ⟨e, he, hme, -⟩ := hstated.told m hm
  exact hnone e he (hname ▸ hme)

theorem ofJson_of_states (h : States s.entries doc) : ofJson doc = .ok s := by
  rw [ofJson, member?_of_states h]
  exact s.reads.decode h

theorem ofJson_of_member {whole : Json} (h : States s.entries doc)
    (hmember : whole.member? "borg" = some doc) : ofJson whole = .ok s := by
  rw [ofJson, hmember]
  exact s.reads.decode h

/-- A text that gives settings. -/
inductive IsText (s : Settings) (text : String) : Prop
  /-- It spells a document that states them. -/
  | bare {doc : Json} (states : States s.entries doc) (spells : IsSpelling text doc)
  /-- It is an object in which such a document has the name of the gateway, and all of it can be
  read. -/
  | wrapped {doc whole : Json} {depth : Nat} (b : ObjectWith "borg" (Utf8.encode text.toList))
      (states : States s.entries doc) (spells : Spells depth doc b.member.item.value)
      (room : depth < Json.maxDepth) (readable : Json.parse text = .ok whole)

/-- Settings are read from every text that gives them, and what is written for them is one. -/
theorem parse_of_isText (s : Settings) :
    parse s.render = .ok s ∧
    States s.entries s.toJson ∧ IsSpelling s.render s.toJson ∧
    ∀ text, s.IsText text → parse text = .ok s := by
  have hparse : ∀ text, s.IsText text → parse text = .ok s := by
    intro text h
    cases h with
    | bare states spells =>
      rw [parse, Json.parse_of_spelling spells, Result.ok_bind, ofJson_of_states states]
    | wrapped b states spells room readable =>
      have hmember := b.member?_of_parse spells room readable
      rw [parse, readable, Result.ok_bind, ofJson_of_member states hmember]
  have hstates := s.states_toJson
  have hspelling := s.isSpelling_render
  exact ⟨hparse s.render (.bare hstates hspelling), hstates, hspelling, hparse⟩

/-- Settings under older names, beside something else and without what is as usual. -/
theorem parse_wrapped :
    let s : Settings := {
      instances := [{ credential := some "sk", models := ["m"] }]
      sources := [{ space := "n", selector := "a=b", modelKey := some "k" }] }
    let text := "\x7b\"borg\":\x7b\"instances\":[\x7b\"apikey\":\"sk\",\"models\":[\"m\"]\x7d]," ++
      "\"k8s_discover\":[\x7b\"label_selector\":\"a=b\",\"modelkey\":\"k\"," ++
      "\"namespace\":\"n\"\x7d]\x7d,\"other\":[null]\x7d"
    s.IsText text ∧ parse text = .ok s := by
  intro s text
  let instanceDoc : Json := .ofMembers [("apikey", .string "sk"), ("models", .array [.string "m"])]
  let sourceDoc : Json := .ofMembers
    [("label_selector", .string "a=b"), ("modelkey", .string "k"), ("namespace", .string "n")]
  let doc : Json := .ofMembers
    [("instances", .array [instanceDoc]), ("k8s_discover", .array [sourceDoc])]
  have hinstance : States (InstanceSettings.entries
      { credential := some "sk", models := ["m"] }) instanceDoc := by
    refine ⟨_, rfl, ?_, ?_, ?_⟩ <;>
      simp [InstanceSettings.entries, Json.Entry.names, Json.ofText?]
  have hsource : States (SourceSettings.entries
      { space := "n", selector := "a=b", modelKey := some "k" }) sourceDoc := by
    refine ⟨_, rfl, ?_, ?_, ?_⟩ <;> simp [SourceSettings.entries, Json.Entry.names, Json.ofText?]
  have hdoc : States s.entries doc := by
    refine ⟨_, rfl, ?_, ?_, ?_⟩ <;> simp [entries, Json.Entry.names, s, hinstance, hsource]
  have hwritten : ∀ depth, IsWritten (depth + 4) doc := by
    intro depth
    refine isWritten_ofMembers (List.forall_mem_cons.mpr ⟨isWritten_array ?_,
      List.forall_mem_singleton.mpr (isWritten_array ?_)⟩)
    · refine List.forall_mem_singleton.mpr (isWritten_ofMembers ?_)
      simp [isWritten_string, isWritten_array]
    · refine List.forall_mem_singleton.mpr (isWritten_ofMembers ?_)
      simp [isWritten_string]
  have hother : ∀ depth, IsWritten (depth + 1) (.array [.null]) := fun _ =>
    isWritten_array (List.forall_mem_singleton.mpr Json.isWritten_null)
  have hwhole : IsSpelling text (.ofMembers [("borg", doc), ("other", .array [.null])]) := by
    refine ⟨Gap.none, _, Gap.none, ?_, isWritten_ofMembers (List.forall_mem_cons.mpr
      ⟨hwritten 122, List.forall_mem_singleton.mpr (hother 125)⟩)⟩
    decide +kernel
  let b : ObjectWith "borg" (Utf8.encode text.toList) := {
    lead := Gap.none
    before := []
    member := Json.bareMember ("borg", doc)
    behind := [Json.bareMember ("other", .array [.null])]
    gap := Gap.none
    trail := Gap.none
    spells := by decide +kernel
    named := Json.text?_map_ofChar _
    others := by
      refine List.forall_mem_singleton.mpr ?_
      rw [Json.bareMember, Json.text?_map_ofChar]
      decide
    values := List.forall_mem_singleton.mpr (hother 0).isValue }
  have htext : s.IsText text :=
    .wrapped b hdoc (hwritten 0) (by decide) (Json.parse_of_spelling hwhole)
  exact ⟨htext, (parse_of_isText s).2.2.2 text htext⟩

end Settings

end ModelGateway

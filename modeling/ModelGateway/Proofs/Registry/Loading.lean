/-
What the instances of the settings do to a registry.

An instance stands for an endpoint or has a fault, and nothing but the instance and its index
decides which.  Instances are read in order up to the first fault, and stored only when all of
them are read, so with a fault there is nothing that could have been stored.  Without one, as
many endpoints are stored as there are instances, under identities that are all different: none
of them replaces another, and of what was there only what has one of these identities.
-/
import ModelGateway.Proofs.Registry.Instances
import ModelGateway.Proofs.Registry.Newcomers
import ModelGateway.Proofs.Text.Trim

namespace ModelGateway

variable {s : InstanceSettings} {instances : List InstanceSettings} {i n : Nat} {e : Endpoint}
  {error : InstanceError} {loaded : List Endpoint}

/-! ### One instance -/

namespace InstanceSettings

/-- Where an instance is, without the blanks around it; nothing if it does not say. -/
def address (s : InstanceSettings) : String := Text.trim (s.endpoint.getD "")

/-- What is wrong with the instance at an index.  It has no more than one fault: what comes later
here is only wrong if nothing is that comes before. -/
inductive Fault (s : InstanceSettings) (i : Nat) : InstanceError → Prop
  | missing (h : s.address = "") : Fault s i (.missingEndpoint i)
  | unreadable {cause : Url.Error} (named : s.address ≠ "")
      (h : Url.parse s.address = .error cause) : Fault s i (.invalidEndpoint i s.address cause)
  | unsuitable {url : Url} (named : s.address ≠ "") (read : Url.parse s.address = .ok url)
      (h : url.isVerbatim = true) : Fault s i (.invalidEndpoint i s.address .unsuitableBase)
  | noModels {url : Url} (named : s.address ≠ "") (read : Url.parse s.address = .ok url)
      (suits : url.isVerbatim = false) (h : ∀ model ∈ s.models, Text.trim model = "") :
      Fault s i (.noModels i s.address)

/-- The endpoint that the instance at an index stands for. -/
structure StandsFor (s : InstanceSettings) (i : Nat) (e : Endpoint) : Prop where
  id : e.id = .ofStatic i
  /-- A path that is nothing but slashes gives way to `/v1`. -/
  url : ∃ url, Url.parse s.address = .ok url ∧ url.isVerbatim = false ∧
    e.baseUrl = if url.path.write.toList.all (· == '/') then { url with path := .segments ["v1"] }
      else url
  credential : e.credential = s.credential.getD ""
  models : ∀ name, name ∈ e.models ↔ name ≠ "" ∧ ∃ model ∈ s.models, Text.trim model = name
  source : e.source = .settings

/-- The wording of a fault names the index. -/
theorem Fault.message (h : s.Fault i error) :
    ∃ rest : String, error.message = "static instance #" ++ toString i ++ rest := by
  have hendpoint : ∀ cause : Url.Error, (InstanceError.invalidEndpoint i s.address cause).message =
      "static instance #" ++ toString i ++ " has an invalid endpoint '" ++ s.address ++ "': " ++
        cause.message := fun _ => rfl
  have hmodels : (InstanceError.noModels i s.address).message =
      "static instance #" ++ toString i ++ " (" ++ s.address ++ ") serves no models" := rfl
  have hmissing : (InstanceError.missingEndpoint i).message =
      "static instance #" ++ toString i ++ " has no endpoint" := rfl
  cases h with
  | missing => exact ⟨_, hmissing⟩
  | unreadable | unsuitable =>
    rw [hendpoint, String.append_assoc, String.append_assoc, String.append_assoc]
    exact ⟨_, rfl⟩
  | noModels =>
    rw [hmodels, String.append_assoc, String.append_assoc]
    exact ⟨_, rfl⟩

theorem mem_modelSet {name : String} :
    name ∈ s.modelSet ↔ name ≠ "" ∧ ∃ model ∈ s.models, Text.trim model = name := by
  rw [modelSet, NameSet.mem_ofList, List.mem_filter, List.mem_map, bne_iff_ne, and_comm]

theorem modelSet_isEmpty :
    s.modelSet.isEmpty = true ↔ ∀ model ∈ s.models, Text.trim model = "" := by
  rw [NameSet.isEmpty, List.isEmpty_iff, List.eq_nil_iff_forall_not_mem]
  constructor
  · intro h model hmodel
    by_contra hne
    exact h _ (mem_modelSet.mpr ⟨hne, model, hmodel, rfl⟩)
  · intro h name hname
    obtain ⟨hne, model, hmodel, rfl⟩ := mem_modelSet.mp hname
    exact hne (h model hmodel)

theorem withPath_v1 {url : Url} (h : url.isVerbatim = false) :
    url.withPath "/v1" = { url with path := .segments ["v1"] } := by
  have hv1 : ∀ kind, Url.segmentsOf kind (Url.unwrap "/v1".toList) = ["v1"] := by
    intro kind
    cases kind <;> decide
  unfold Url.withPath
  cases hpath : url.path with
  | verbatim text => simp [Url.isVerbatim, hpath] at h
  | segments list =>
    simp only
    rw [hv1]

/-- An instance's address that is read is a base, unless its path is one text. -/
theorem readInstanceUrl_address {url : Url} (hread : Url.parse s.address = .ok url) :
    readInstanceUrl s.address =
      if url.isVerbatim then .error .unsuitableBase
      else .ok (if url.path.write.toList.all (· == '/') then { url with path := .segments ["v1"] }
        else url) := by
  rw [readInstanceUrl, address, Text.trim_trim, ← address, hread, Result.ok_bind]
  cases hverbatim : url.isVerbatim with
  | true => rfl
  | false =>
    simp only [Bool.false_eq_true, if_false]
    split
    · rw [withPath_v1 hverbatim]
    · rfl

theorem readInstanceUrl_unreadable {cause : Url.Error} (h : Url.parse s.address = .error cause) :
    readInstanceUrl s.address = .error cause := by
  rw [readInstanceUrl, address, Text.trim_trim, ← address, h]
  rfl

theorem trim_endpoint : Text.trim (s.endpoint.getD "") = s.address := rfl

theorem toEndpoint_of_missing (h : s.address = "") :
    s.toEndpoint i = .error (.missingEndpoint i) := if_pos h

theorem toEndpoint_of_error {cause : Url.Error} (hnamed : s.address ≠ "")
    (h : readInstanceUrl s.address = .error cause) :
    s.toEndpoint i = .error (.invalidEndpoint i s.address cause) := by
  simp only [toEndpoint, trim_endpoint, if_neg hnamed, h]

theorem toEndpoint_of_ok {url : Url} (hnamed : s.address ≠ "")
    (h : readInstanceUrl s.address = .ok url) :
    s.toEndpoint i = if s.modelSet.isEmpty then .error (.noModels i s.address)
      else .ok ⟨.ofStatic i, url, s.credential.getD "", s.modelSet, .settings⟩ := by
  simp only [toEndpoint, trim_endpoint, if_neg hnamed, h]

/-- A fault is what is told of an instance that has it. -/
theorem Fault.toEndpoint (h : s.Fault i error) : s.toEndpoint i = .error error := by
  cases h with
  | missing h => exact toEndpoint_of_missing h
  | unreadable named h => exact toEndpoint_of_error named (readInstanceUrl_unreadable h)
  | unsuitable named read h =>
    have hbase := readInstanceUrl_address read
    rw [if_pos h] at hbase
    exact toEndpoint_of_error named hbase
  | noModels named read suits h =>
    have hbase := readInstanceUrl_address read
    rw [if_neg (by simp [suits])] at hbase
    rw [toEndpoint_of_ok named hbase, if_pos (modelSet_isEmpty.mpr h)]

/-- An instance has a fault, or stands for an endpoint. -/
theorem toEndpoint_cases (s : InstanceSettings) (i : Nat) :
    (∃ error, s.Fault i error) ∨ ∃ e, s.toEndpoint i = .ok e ∧ s.StandsFor i e := by
  by_cases hnamed : s.address = ""
  · exact Or.inl ⟨_, .missing hnamed⟩
  cases hread : Url.parse s.address with
  | error cause => exact Or.inl ⟨_, .unreadable hnamed hread⟩
  | ok url =>
    cases hverbatim : url.isVerbatim with
    | true => exact Or.inl ⟨_, .unsuitable hnamed hread hverbatim⟩
    | false =>
      by_cases hmodels : s.modelSet.isEmpty = true
      · exact Or.inl ⟨_, .noModels hnamed hread hverbatim (modelSet_isEmpty.mp hmodels)⟩
      · have hbase := readInstanceUrl_address hread
        rw [if_neg (by simp [hverbatim])] at hbase
        refine Or.inr ⟨_, (toEndpoint_of_ok hnamed hbase).trans (if_neg hmodels), ?_⟩
        exact ⟨rfl, ⟨url, hread, hverbatim, rfl⟩, rfl, fun _ => mem_modelSet, rfl⟩

theorem toEndpoint_eq_error_iff : s.toEndpoint i = .error error ↔ s.Fault i error := by
  refine ⟨fun h => ?_, Fault.toEndpoint⟩
  rcases toEndpoint_cases s i with ⟨other, hfault⟩ | ⟨e, hok, -⟩
  · rw [hfault.toEndpoint] at h
    exact Except.error.inj h ▸ hfault
  · rw [hok] at h
    cases h

theorem toEndpoint_standsFor (h : s.toEndpoint i = .ok e) : s.StandsFor i e := by
  rcases toEndpoint_cases s i with ⟨other, hfault⟩ | ⟨e', hok, hstands⟩
  · rw [hfault.toEndpoint] at h
    cases h
  · rw [hok] at h
    exact Except.ok.inj h ▸ hstands

end InstanceSettings

/-! ### All of them, up to the first fault -/

/-- Instances cannot be used exactly if one of them cannot, and the first that cannot is told. -/
theorem endpointsFrom_eq_error_iff : endpointsFrom n instances = .error error ↔
    ∃ i, ∃ s : InstanceSettings, instances[i]? = some s ∧ s.toEndpoint (n + i) = .error error ∧
      ∀ j < i, ∀ t : InstanceSettings, instances[j]? = some t →
        ∃ e, t.toEndpoint (n + j) = .ok e := by
  induction instances generalizing n with
  | nil => simp [endpointsFrom]
  | cons s rest ih =>
    have hplace : ∀ i, n + 1 + i = n + (i + 1) := fun i => by omega
    simp only [endpointsFrom, Result.bind_eq_error, ih, hplace]
    constructor
    · rintro (hs | ⟨e, hs, ⟨i, t, ht, hfault, hearlier⟩ | ⟨more, -, hmore⟩⟩)
      · exact ⟨0, s, rfl, hs, by simp⟩
      · refine ⟨i + 1, t, ht, hfault, fun j hj u hu => ?_⟩
        cases j with
        | zero =>
          obtain rfl : s = u := Option.some.inj hu
          exact ⟨e, hs⟩
        | succ j => exact hearlier j (by omega) u hu
      · cases hmore
    · rintro ⟨i, t, ht, hfault, hearlier⟩
      cases i with
      | zero =>
        obtain rfl : s = t := Option.some.inj ht
        exact Or.inl hfault
      | succ i =>
        obtain ⟨e, hs⟩ := hearlier 0 (by omega) s rfl
        refine Or.inr ⟨e, hs, Or.inl ⟨i, t, ht, hfault, fun j hj u hu => ?_⟩⟩
        exact hearlier (j + 1) (by omega) u hu

theorem endpointsFrom_at (h : endpointsFrom 0 instances = .ok loaded)
    (hs : instances[i]? = some s) : ∃ e ∈ loaded, s.toEndpoint i = .ok e := by
  have hmem : (s, i) ∈ instances.zipIdx := List.mk_mem_zipIdx_iff_getElem?.mpr hs
  obtain ⟨e, he, hok⟩ := Related.mem_left (endpointsFrom_eq_ok_iff.mp h) hmem
  exact ⟨e, he, hok⟩

/-! ### Storing them -/

namespace Registry

variable {r : Registry} {id : EndpointId}

/-- Endpoints that serve something are stored as findings are. -/
theorem putAll_eq (h : ∀ e ∈ loaded, e.models.isEmpty = false) (state : Registry × Summary) :
    loaded.foldl put state.1 = (loaded.foldl refresh state).1 := by
  induction loaded generalizing state with
  | nil => rfl
  | cons e rest ih =>
    have hput : state.1.put e = (refresh state e).1 := by
      rw [put, if_neg (by simp [h e (by simp)])]
      rfl
    rw [List.foldl_cons, List.foldl_cons, hput, ih fun d hd => h d (by simp [hd])]

theorem get?_putAll (h : ∀ e ∈ loaded, e.models.isEmpty = false)
    (hids : (loaded.map (·.id)).Nodup) :
    (loaded.foldl put r).get? id = (loaded.find? (·.id == id)).or (r.get? id) := by
  rw [putAll_eq h (r, {}), get?_refreshAll hids]

theorem eraseDups_of_nodup {ids : List EndpointId} (h : ids.Nodup) : ids.eraseDups = ids := by
  induction ids with
  | nil => rfl
  | cons id rest ih =>
    obtain ⟨hfresh, hrest⟩ := List.nodup_cons.mp h
    have hkept : rest.filter (fun b => !b == id) = rest :=
      List.filter_eq_self.mpr fun b hb => by
        rw [Bool.not_eq_true', beq_eq_false_iff_ne]
        rintro rfl
        exact hfresh hb
    rw [List.eraseDups_cons, hkept, ih hrest]

theorem ids_putAll (h : ∀ e ∈ loaded, e.models.isEmpty = false)
    (hids : (loaded.map (·.id)).Nodup) :
    (loaded.foldl put r).ids = r.ids ++ (loaded.map (·.id)).filter (· ∉ r.ids) := by
  rw [putAll_eq h (r, {}), ids_refreshAll, eraseDups_of_nodup hids]

/-- **Instances are loaded all or none.**  Either there is a first instance with a fault: then this
fault is told, with the index, and the registry is left as it was.  Or every instance stands for an
endpoint: then all of them are told in number, and in the registry that is left each is found under
the identity of its index, every other identity is found as before, and what is new comes last, in
the order of the settings. -/
theorem loadInstances_all_or_none (instances : List InstanceSettings) (r : Registry) :
    (∃ i, ∃ s : InstanceSettings, ∃ error, loadInstances instances r = (.error error, r) ∧
      instances[i]? = some s ∧ s.Fault i error ∧
      (∃ rest : String, error.message = "static instance #" ++ toString i ++ rest) ∧
      ∀ j < i, ∀ t : InstanceSettings, instances[j]? = some t → ∀ other, ¬ t.Fault j other) ∨
    ∃ made, loadInstances instances r = (.ok instances.length, made) ∧
      (∀ i, ∀ s : InstanceSettings, instances[i]? = some s →
        ∃ e, made.get? (.ofStatic i) = some e ∧ s.StandsFor i e) ∧
      (∀ id, (∀ i < instances.length, id ≠ .ofStatic i) → made.get? id = r.get? id) ∧
      made.ids = r.ids ++
        ((List.range instances.length).map EndpointId.ofStatic).filter (· ∉ r.ids) := by
  cases hloaded : endpointsFrom 0 instances with
  | error error =>
    obtain ⟨i, s, hs, hfault, hearlier⟩ := endpointsFrom_eq_error_iff.mp hloaded
    simp only [Nat.zero_add] at hfault hearlier
    have hfault := InstanceSettings.toEndpoint_eq_error_iff.mp hfault
    refine Or.inl ⟨i, s, error, loadInstances_of_error hloaded, hs, hfault, hfault.message, ?_⟩
    intro j hj t ht other hother
    obtain ⟨e, hok⟩ := hearlier j hj t ht
    rw [hother.toEndpoint] at hok
    cases hok
  | ok loaded =>
    have hcount : loaded.length = instances.length := by
      have hlengths := (endpointsFrom_eq_ok_iff.mp hloaded).length_eq
      rw [List.length_zipIdx] at hlengths
      exact hlengths.symm
    have hall : loadInstances instances r = (.ok instances.length, loaded.foldl put r) := by
      rw [loadInstances_of_ok hloaded, hcount]
    have huseful : ∀ e ∈ loaded, e.models.isEmpty = false :=
      fun e he => (endpointsFrom_own hloaded he).2.2
    have hdistinct := endpointsFrom_ids hloaded
    have hids : loaded.map (·.id) = (List.range instances.length).map EndpointId.ofStatic := by
      rw [endpointsFrom_map_id hloaded, List.range_eq_range']
    refine Or.inr ⟨loaded.foldl put r, hall, ?_, ?_, ?_⟩
    · intro i s hs
      obtain ⟨e, he, hok⟩ := endpointsFrom_at hloaded hs
      have hstands := InstanceSettings.toEndpoint_standsFor hok
      refine ⟨e, ?_, hstands⟩
      rw [get?_putAll huseful hdistinct, ← hstands.id, Keyed.find?_of_mem hdistinct he,
        Option.some_or]
    · intro id hid
      have hfresh : id ∉ loaded.map (·.id) := by
        rw [hids]
        intro hmem
        obtain ⟨i, hi, rfl⟩ := List.mem_map.mp hmem
        exact hid i (List.mem_range.mp hi) rfl
      rw [get?_putAll huseful hdistinct, Keyed.find?_fresh hfresh, Option.none_or]
    · rw [ids_putAll huseful hdistinct, hids]

end Registry

end ModelGateway

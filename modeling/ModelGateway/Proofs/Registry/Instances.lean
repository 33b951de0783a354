/-
The registry that the settings fill.

Every instance becomes an endpoint under the identity of its index, so no two of them
meet, and stored into the empty registry all of them stay, in the order of the settings.
-/
import ModelGateway.Proofs.Endpoint.Identity
import ModelGateway.Proofs.Registry.Order
import ModelGateway.Proofs.Result
import ModelGateway.StaticBackends

namespace ModelGateway

variable {s : InstanceSettings} {instances : List InstanceSettings} {i : Nat} {e : Endpoint}
  {loaded : List Endpoint}

/-! ### From settings to endpoints -/

theorem InstanceSettings.toEndpoint_ok (h : s.toEndpoint i = .ok e) :
    e.id = .ofStatic i ∧ e.models = s.modelSet ∧ e.source = .settings ∧
      e.models.isEmpty = false := by
  unfold toEndpoint at h
  simp only at h
  split at h
  · simp at h
  · split at h
    · simp at h
    · split at h
      · simp at h
      · next hmodels =>
        rw [← Except.ok.inj h]
        exact ⟨rfl, rfl, rfl, Bool.eq_false_iff.mpr hmodels⟩

/-- Instances can be used exactly if each of them can, at its own index. -/
theorem endpointsFrom_eq_ok_iff : endpointsFrom i instances = .ok loaded ↔
    List.Forall₂ (fun x e => x.1.toEndpoint x.2 = .ok e) (instances.zipIdx i) loaded := by
  induction instances generalizing i loaded with
  | nil => simp [endpointsFrom, eq_comm]
  | cons s rest ih =>
    rw [endpointsFrom, List.zipIdx_cons, Result.bind_eq_ok, List.forall₂_cons_left_iff]
    refine exists_congr fun e => ?_
    simp only [Result.bind_eq_ok, ih, Except.ok.injEq]
    constructor
    · intro h
      obtain ⟨hs, more, hrest, rfl⟩ := h
      exact ⟨more, hs, hrest, rfl⟩
    · intro h
      obtain ⟨more, hs, hrest, rfl⟩ := h
      exact ⟨hs, more, hrest, rfl⟩

/-- What of the endpoints of instances is told by the settings alone. -/
theorem endpointsFrom_told (h : endpointsFrom i instances = .ok loaded) :
    loaded.map (fun e => (e.id, e.models, e.source)) =
      (instances.zipIdx i).map fun x => (.ofStatic x.2, x.1.modelSet, .settings) := by
  refine Related.map_eq ((endpointsFrom_eq_ok_iff.mp h).imp fun x e hx => ?_)
  obtain ⟨hid, hmodels, hsource, -⟩ := InstanceSettings.toEndpoint_ok hx
  rw [hid, hmodels, hsource]

/-- The endpoints of instances have the identities of their indices. -/
theorem endpointsFrom_map_id (h : endpointsFrom i instances = .ok loaded) :
    loaded.map (·.id) = (List.range' i instances.length).map EndpointId.ofStatic := by
  have hids := congrArg (List.map (·.1)) (endpointsFrom_told h)
  rw [List.map_map, List.map_map] at hids
  have hindices : (instances.zipIdx i).map (EndpointId.ofStatic ∘ Prod.snd) =
      (List.range' i instances.length).map EndpointId.ofStatic := by
    rw [← List.map_map, List.zipIdx_map_snd]
  exact hids.trans hindices

theorem endpointsFrom_ids (h : endpointsFrom i instances = .ok loaded) :
    (loaded.map (·.id)).Nodup := by
  rw [endpointsFrom_map_id h]
  exact (List.nodup_range').map fun _ _ => EndpointId.ofStatic_inj

/-- An endpoint of an instance is the settings' own, and no source's. -/
theorem endpointsFrom_own (h : endpointsFrom i instances = .ok loaded) (he : e ∈ loaded) :
    (∃ j, e.id = .ofStatic j) ∧ e.source = .settings ∧ e.models.isEmpty = false := by
  obtain ⟨x, -, hx⟩ := Related.mem_right (endpointsFrom_eq_ok_iff.mp h) he
  obtain ⟨hid, -, hsource, hmodels⟩ := InstanceSettings.toEndpoint_ok hx
  exact ⟨⟨_, hid⟩, hsource, hmodels⟩

/-! ### Storing them -/

namespace Registry

variable {r registry : Registry} {count : Nat}

theorem putAll_sound (h : Sound r) : Sound (loaded.foldl put r) :=
  List.foldlRecOn _ _ h fun _ h _ _ => put_sound h

theorem endpoints_put (he : e.models.isEmpty = false) (hnew : ∀ d ∈ r.endpoints, d.id ≠ e.id) :
    (r.put e).endpoints = r.endpoints ++ [e] := by
  have hslot : (r.slot? e.id).isSome = false := by
    rw [Option.isSome_eq_false_iff, Option.isNone_iff_eq_none]
    refine List.find?_eq_none.mpr fun s hs => ?_
    simpa using hnew s.endpoint (List.mem_map_of_mem hs)
  have hsame : ∀ d ∈ r.endpoints, (if d.id = e.id then e else d) = d := fun d hd =>
    if_neg (hnew d hd)
  rw [put, if_neg (by simp [he]), endpoints_store, hslot, List.map_congr_left hsame, List.map_id']
  rfl

theorem endpoints_putAll (hmodels : ∀ e ∈ loaded, e.models.isEmpty = false)
    (hids : ((r.endpoints ++ loaded).map (·.id)).Nodup) :
    (loaded.foldl put r).endpoints = r.endpoints ++ loaded := by
  induction loaded generalizing r with
  | nil => simp
  | cons e rest ih =>
    have hnew : ∀ d ∈ r.endpoints, d.id ≠ e.id := by
      rw [List.map_append] at hids
      intro d hd
      exact (List.nodup_append.mp hids).2.2 _ (List.mem_map_of_mem hd) _ (by simp)
    have hput := endpoints_put (hmodels e (by simp)) hnew
    rw [List.foldl_cons, ih (fun d hd => hmodels d (by simp [hd])) (by simpa [hput] using hids),
      hput, List.append_assoc, List.singleton_append]

theorem loadInstances_of_error {error : InstanceError}
    (h : endpointsFrom 0 instances = .error error) :
    loadInstances instances r = (.error error, r) := by
  rw [loadInstances, h]

theorem loadInstances_of_ok (h : endpointsFrom 0 instances = .ok loaded) :
    loadInstances instances r = (.ok loaded.length, loaded.foldl put r) := by
  rw [loadInstances, h]

/-- What the settings fill the empty registry with. -/
theorem registerInstances_empty (h : registerInstances instances {} = .ok (count, registry)) :
    endpointsFrom 0 instances = .ok registry.endpoints ∧ Sound registry := by
  unfold registerInstances at h
  cases hloaded : endpointsFrom 0 instances with
  | error cause => simp [loadInstances_of_error hloaded, Except.map] at h
  | ok loaded =>
    have hregistry : loaded.foldl put {} = registry := by
      rw [loadInstances_of_ok hloaded] at h
      exact congrArg Prod.snd (Except.ok.inj h)
    rw [← hregistry]
    refine ⟨congrArg Except.ok ?_, putAll_sound sound_empty⟩
    have hstored := endpoints_putAll (r := {}) (fun e he => (endpointsFrom_own hloaded he).2.2)
      (endpointsFrom_ids hloaded)
    exact hstored.symm

end Registry

end ModelGateway

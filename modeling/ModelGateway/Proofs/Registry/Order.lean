/-
Where endpoints are.

Callers see endpoints in the order of their slots.  Storing puts an endpoint where its
identity is or behind all others, and removing closes a gap, so a change of some
identities leaves everything else, and in its order.  A reconciliation is many such
changes, and what it leaves is told from the identities it may touch: a front without any
of them stays the front, and endpoints that are apart from all of them stay as they were.
-/
import ModelGateway.Proofs.Registry.Lookup

namespace ModelGateway.Registry

variable {r : Registry} {e : Endpoint} {id : EndpointId} {source : SourceKey}
  {found front : List Endpoint} {late : Endpoint → Prop}

/-! ### One change -/

theorem endpoints_remove :
    (r.remove id).endpoints = r.endpoints.filter fun e => e.id ≠ id := by
  rw [endpoints, slots_remove, endpoints, List.filter_map]
  rfl

theorem endpoints_store :
    (r.store e).endpoints = (r.endpoints.map fun d => if d.id = e.id then e else d) ++
      if (r.slot? e.id).isSome then [] else [e] := by
  unfold store
  cases hslot : r.slot? e.id with
  | none =>
    have hne : ∀ d ∈ r.endpoints, (if d.id = e.id then e else d) = d := by
      intro d hd
      obtain ⟨s, hs, rfl⟩ := List.mem_map.mp hd
      exact if_neg (slot?_none hslot s hs)
    rw [List.map_congr_left hne, List.map_id']
    simp [endpoints]
  | some old =>
    rw [endpoints, endpoints, List.map_map, List.map_map]
    simp only [Option.isSome_some, if_true, List.append_nil]
    refine List.map_congr_left fun s _ => ?_
    simp only [Function.comp_apply]
    split <;> rfl

/-! ### What comes first -/

/-- Certain endpoints come first, and all behind them are late. -/
def Begins (front : List Endpoint) (late : Endpoint → Prop) (r : Registry) : Prop :=
  ∃ behind, r.endpoints = front ++ behind ∧ ∀ d ∈ behind, late d

theorem Begins.remove (h : Begins front late r) (hfront : ∀ d ∈ front, d.id ≠ id) :
    Begins front late (r.remove id) := by
  obtain ⟨behind, hr, hlate⟩ := h
  refine ⟨behind.filter fun d => d.id ≠ id, ?_, fun d hd => hlate d (List.mem_of_mem_filter hd)⟩
  rw [endpoints_remove, hr, List.filter_append]
  congr 1
  exact List.filter_eq_self.mpr fun d hd => by simpa using hfront d hd

theorem Begins.store (h : Begins front late r) (hfront : ∀ d ∈ front, d.id ≠ e.id)
    (he : late e) : Begins front late (r.store e) := by
  obtain ⟨behind, hr, hlate⟩ := h
  have hkept : ∀ d ∈ front, (if d.id = e.id then e else d) = d := fun d hd =>
    if_neg (hfront d hd)
  refine ⟨(behind.map fun d => if d.id = e.id then e else d) ++
    if (r.slot? e.id).isSome then [] else [e], ?_, fun d hd => ?_⟩
  · rw [endpoints_store, hr, List.map_append, List.map_congr_left hkept, List.map_id',
      List.append_assoc]
  · rcases List.mem_append.mp hd with hd | hd
    · obtain ⟨x, hx, rfl⟩ := List.mem_map.mp hd
      split
      · exact he
      · exact hlate x hx
    · split at hd
      · simp at hd
      · exact List.mem_singleton.mp hd ▸ he

/-- A front that has none of the identities in question stays the front. -/
theorem Begins.reconcile (own : EndpointId → Prop) (h : Begins front late r)
    (hfront : ∀ d ∈ front, ¬ own d.id)
    (hstale : ∀ id ∈ r.stale source (accepted source found), own id)
    (hfound : ∀ e ∈ accepted source found, own e.id ∧ late e) :
    Begins front late (r.reconcile source found).1 := by
  refine reconcile_induction h (fun r' h id hid => ?_) fun r' h e he => ?_
  · exact h.remove fun d hd heq => hfront d hd (heq ▸ hstale id hid)
  · exact h.store (fun d hd heq => hfront d hd (heq ▸ (hfound e he).1)) (hfound e he).2

/-! ### What is apart -/

section Apart

variable {apart : Endpoint → Bool}

theorem filter_remove (h : ∀ d ∈ r.endpoints, d.id = id → apart d = false) :
    (r.remove id).endpoints.filter apart = r.endpoints.filter apart := by
  rw [endpoints_remove, List.filter_filter]
  refine List.filter_congr fun d hd => ?_
  by_cases heq : d.id = id
  · simp [h d hd heq]
  · simp [heq]

theorem filter_store (he : apart e = false) (h : ∀ d ∈ r.endpoints, d.id = e.id → apart d = false) :
    (r.store e).endpoints.filter apart = r.endpoints.filter apart := by
  have hlast : (if (r.slot? e.id).isSome then [] else [e]).filter apart = [] := by
    split <;> simp [he]
  have hsame : ∀ d ∈ r.endpoints, (apart ∘ fun d => if d.id = e.id then e else d) d = apart d := by
    intro d hd
    by_cases heq : d.id = e.id
    · simp [heq, he, h d hd heq]
    · simp [heq]
  rw [endpoints_store, List.filter_append, hlast, List.append_nil, List.filter_map,
    List.filter_congr hsame]
  refine (List.map_congr_left fun d hd => if_neg fun heq => ?_).trans (List.map_id' _)
  obtain ⟨hd, htrue⟩ := List.mem_filter.mp hd
  simp [h d hd heq] at htrue

/-- Endpoints that have none of the identities in question stay as they were. -/
theorem filter_reconcile (own : EndpointId → Prop)
    (hapart : ∀ d ∈ r.endpoints, own d.id → apart d = false)
    (hstale : ∀ id ∈ r.stale source (accepted source found), own id)
    (hfound : ∀ e ∈ accepted source found, own e.id ∧ apart e = false) :
    (r.reconcile source found).1.endpoints.filter apart = r.endpoints.filter apart := by
  refine (reconcile_induction (motive := fun r' => (∀ d ∈ r'.endpoints, own d.id → apart d = false) ∧
    r'.endpoints.filter apart = r.endpoints.filter apart) ⟨hapart, rfl⟩ ?_ ?_).2
  · intro r' h id hid
    obtain ⟨hapart', hsame⟩ := h
    refine ⟨fun d hd => ?_, ?_⟩
    · rw [endpoints_remove] at hd
      exact hapart' d (List.mem_of_mem_filter hd)
    · rw [filter_remove fun d hd heq => hapart' d hd (heq ▸ hstale id hid), hsame]
  · intro r' h e he
    obtain ⟨hapart', hsame⟩ := h
    obtain ⟨hown, hlate⟩ := hfound e he
    refine ⟨fun d hd hdown => ?_, ?_⟩
    · rcases endpoints_store_subset hd with hd | rfl
      · exact hapart' d hd hdown
      · exact hlate
    · rw [filter_store hlate fun d hd heq => hapart' d hd (heq ▸ hown), hsame]

end Apart

end ModelGateway.Registry

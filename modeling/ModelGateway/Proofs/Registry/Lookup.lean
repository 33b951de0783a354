/-
What a look-up by identity sees of a change.

Storing and removing touch one identity each, so what a whole reconciliation does can be
told identity by identity: what the source found replaces all that it contributed, and
nothing that is another's is touched.
-/
import ModelGateway.Proofs.Lists
import ModelGateway.Proofs.Registry.Agreement

namespace ModelGateway.Registry

variable {r : Registry} {e : Endpoint} {id : EndpointId} {source : SourceKey}

/-! ### One change -/

theorem get?_id (h : r.get? id = some e) : e ∈ r.endpoints ∧ e.id = id := by
  obtain ⟨s, hs, rfl⟩ := Option.map_eq_some_iff.mp h
  obtain ⟨hmem, hid⟩ := slot?_some hs
  exact ⟨List.mem_map_of_mem hmem, hid⟩

theorem Sound.get?_of_mem (h : Sound r) {s : Slot} (hs : s ∈ r.slots) :
    r.get? s.endpoint.id = some s.endpoint := by
  rw [get?, h.slot?_eq_some.mpr ⟨hs, rfl⟩]
  rfl

theorem Sound.get?_eq_some (h : Sound r) : r.get? id = some e ↔ e ∈ r.endpoints ∧ e.id = id := by
  refine ⟨get?_id, ?_⟩
  intro hin
  obtain ⟨he, rfl⟩ := hin
  obtain ⟨s, hs, rfl⟩ := List.mem_map.mp he
  exact h.get?_of_mem hs

theorem get?_store : (r.store e).get? id = if e.id = id then some e else r.get? id := by
  unfold store get?
  cases hslot : r.slot? e.id with
  | none =>
    have hlast : (Slot.mk r.next e).endpoint.id = e.id := rfl
    show (List.find? _ (r.slots ++ [⟨r.next, e⟩])).map _ = _
    rw [List.find?_append]
    by_cases hid : e.id = id
    · rw [if_pos hid, ← hid, ← slot?, hslot, Option.none_or,
        List.find?_cons_of_pos (by simp)]
      rfl
    · rw [if_neg hid, List.find?_cons_of_neg (by simpa using hid), List.find?_nil, Option.or_none]
      rfl
  | some old =>
    have hkeep : ∀ s : Slot, (if s.endpoint.id = e.id then { s with endpoint := e }
        else s : Slot).endpoint.id = s.endpoint.id := by
      intro s
      split
      · next hid => exact hid.symm
      · rfl
    show (List.find? _ (r.slots.map _)).map _ = _
    rw [List.find?_map, Option.map_map]
    have hsame : ((fun s : Slot => s.endpoint.id == id) ∘ fun s : Slot =>
        if s.endpoint.id = e.id then { s with endpoint := e } else s) =
          fun s : Slot => s.endpoint.id == id := by
      funext s
      show (_ == id) = _
      rw [hkeep]
    rw [hsame, ← slot?]
    by_cases hid : e.id = id
    · rw [if_pos hid, ← hid, hslot]
      show some (ite _ _ _ : Slot).endpoint = _
      rw [if_pos (slot?_some hslot).2]
    · rw [if_neg hid]
      cases hother : r.slot? id with
      | none => rfl
      | some s =>
        have hs : ¬ s.endpoint.id = e.id := fun hc => hid (hc.symm.trans (slot?_some hother).2)
        show some (ite _ _ _ : Slot).endpoint = some s.endpoint
        rw [if_neg hs]

theorem get?_remove {gone : EndpointId} :
    (r.remove gone).get? id = if gone = id then none else r.get? id := by
  unfold remove get?
  cases hslot : r.slot? gone with
  | none =>
    by_cases hid : gone = id
    · rw [if_pos hid, ← hid]
      show (r.slot? gone).map _ = none
      rw [hslot]
      rfl
    · rw [if_neg hid]
  | some old =>
    show (List.find? _ (r.slots.filter _)).map _ = _
    rw [List.find?_filter]
    split
    · next hid =>
      rw [Option.map_eq_none_iff, List.find?_eq_none]
      intro s _
      simp [← hid]
    · next hid =>
      congr 2
      funext s
      by_cases hs : s.endpoint.id = id
      · simp [hs, Ne.symm hid]
      · simp [hs]

/-! ### Bringing a source up to date -/

theorem get?_removeAll {gone : List EndpointId} :
    (gone.foldl remove r).get? id = if id ∈ gone then none else r.get? id := by
  induction gone generalizing r with
  | nil => rfl
  | cons g rest ih =>
    rw [List.foldl_cons, ih, get?_remove]
    by_cases hmem : id ∈ rest
    · simp [hmem]
    · by_cases hid : g = id
      · simp [hid]
      · simp [hmem, hid, Ne.symm hid]

theorem get?_refreshAll {found : List Endpoint} {state : Registry × Summary}
    (h : (found.map (·.id)).Nodup) :
    (found.foldl refresh state).1.get? id = (found.find? (·.id == id)).or (state.1.get? id) := by
  induction found generalizing state with
  | nil => rfl
  | cons e rest ih =>
    obtain ⟨hfresh, hrest⟩ := List.nodup_cons.mp h
    have hstep : (refresh state e).1.get? id = if e.id = id then some e else state.1.get? id :=
      get?_store
    rw [List.foldl_cons, ih hrest, hstep]
    by_cases hid : e.id = id
    · have hgone : rest.find? (·.id == id) = none := Keyed.find?_fresh (hid ▸ hfresh)
      rw [hgone, if_pos hid, List.find?_cons_of_pos (by simpa using hid), Option.none_or,
        Option.some_or]
    · rw [if_neg hid, List.find?_cons_of_neg (by simpa using hid)]

theorem mem_stale {kept : List Endpoint} :
    id ∈ r.stale source kept ↔
      ∃ e ∈ r.endpoints, e.source = .discovered source ∧ id ∉ kept.map (·.id) ∧ e.id = id := by
  unfold stale
  simp only [List.mem_map, List.mem_filter, Bool.and_eq_true, decide_eq_true_eq, Bool.not_eq_true',
    List.contains_eq_mem, decide_eq_false_iff_not]
  constructor
  · intro h
    obtain ⟨e, ⟨he, hsource, hgone⟩, rfl⟩ := h
    exact ⟨e, he, hsource, hgone, rfl⟩
  · intro h
    obtain ⟨e, he, hsource, hgone, rfl⟩ := h
    exact ⟨e, ⟨he, hsource, hgone⟩, rfl⟩

/-- What an identity stands for after a reconciliation, whoever found it. -/
theorem get?_reconcile {found : List Endpoint} (h : ((accepted source found).map (·.id)).Nodup) :
    (r.reconcile source found).1.get? id =
      ((accepted source found).find? (·.id == id)).or
        (if id ∈ r.stale source (accepted source found) then none else r.get? id) := by
  show (List.foldl refresh _ (accepted source found)).1.get? id = _
  rw [get?_refreshAll h, get?_removeAll]

/-- What a source contributed under an identity. -/
def contributed? (r : Registry) (source : SourceKey) (id : EndpointId) : Option Endpoint :=
  (r.get? id).filter (·.source = .discovered source)

theorem contributed?_eq_some :
    r.contributed? source id = some e ↔ r.get? id = some e ∧ e.source = .discovered source := by
  simp [contributed?, Option.filter_eq_some_iff]

/-- After a reconciliation a source contributes what it found, and nothing else. -/
theorem contributed?_reconcile {found : List Endpoint}
    (h : ((accepted source found).map (·.id)).Nodup) :
    (r.reconcile source found).1.contributed? source id =
      (accepted source found).find? (·.id == id) := by
  rw [contributed?, get?_reconcile h]
  cases hfind : (accepted source found).find? (·.id == id) with
  | some e =>
    have hsource := (mem_accepted.mp (List.mem_of_find?_eq_some hfind)).2.1
    rw [Option.some_or, Option.filter_some, if_pos (by simpa using hsource)]
  | none =>
    have hnot : id ∉ (accepted source found).map (·.id) := by
      intro hmem
      obtain ⟨e, he, hid⟩ := List.mem_map.mp hmem
      simpa [hid] using List.find?_eq_none.mp hfind e he
    rw [Option.none_or, Option.filter_eq_none_iff]
    intro e he
    split at he
    · simp at he
    · next hstale =>
      obtain ⟨hmem, hid⟩ := get?_id he
      have hother : ¬ e.source = .discovered source :=
        fun hsource => hstale (mem_stale.mpr ⟨e, hmem, hsource, hnot, hid⟩)
      simpa using hother

/-- An identity that a source neither had nor finds stands for what it stood for. -/
theorem get?_reconcile_other {found : List Endpoint}
    (h : ((accepted source found).map (·.id)).Nodup)
    (hhad : ∀ e ∈ r.endpoints, e.source = .discovered source → e.id ≠ id)
    (hfinds : ∀ e ∈ accepted source found, e.id ≠ id) :
    (r.reconcile source found).1.get? id = r.get? id := by
  have hfind : (accepted source found).find? (·.id == id) = none :=
    List.find?_eq_none.mpr fun e he => by simpa using hfinds e he
  have hstale : id ∉ r.stale source (accepted source found) := by
    intro hmem
    obtain ⟨e, he, hsource, -, hid⟩ := mem_stale.mp hmem
    exact hhad e he hsource hid
  rw [get?_reconcile h, hfind, if_neg hstale, Option.none_or]

/-! ### What is in a registry -/

theorem endpoints_store_subset {d : Endpoint} (h : d ∈ (r.store e).endpoints) :
    d ∈ r.endpoints ∨ d = e := by
  obtain ⟨s, hs, rfl⟩ := List.mem_map.mp h
  unfold store at hs
  cases hslot : r.slot? e.id with
  | none =>
    rw [hslot] at hs
    rcases List.mem_append.mp hs with hs | hs
    · exact Or.inl (List.mem_map_of_mem hs)
    · exact Or.inr (by rw [List.mem_singleton.mp hs])
  | some old =>
    rw [hslot] at hs
    obtain ⟨t, ht, rfl⟩ := List.mem_map.mp hs
    split
    · exact Or.inr rfl
    · exact Or.inl (List.mem_map_of_mem ht)

/-- All that is there after a reconciliation was there before or was found. -/
theorem endpoints_reconcile_subset {found : List Endpoint} :
    ∀ d ∈ (r.reconcile source found).1.endpoints, d ∈ r.endpoints ∨ d ∈ accepted source found := by
  refine reconcile_induction
    (motive := fun r' => ∀ d ∈ r'.endpoints, d ∈ r.endpoints ∨ d ∈ accepted source found)
    (fun d hd => Or.inl hd) (fun r' ih id _ d hd => ?_) fun r' ih e he d hd => ?_
  · obtain ⟨s, hs, rfl⟩ := List.mem_map.mp hd
    exact ih _ (List.mem_map_of_mem (slots_remove_sublist.mem hs))
  · rcases endpoints_store_subset hd with hd | rfl
    · exact ih d hd
    · exact Or.inr he

end ModelGateway.Registry

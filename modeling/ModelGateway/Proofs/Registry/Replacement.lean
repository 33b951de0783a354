/-
Replacing what a source contributed.

A reconciliation removes first and stores afterwards, one finding after the other, and
findings may repeat an identity: the last one stays.  Counting along the same walk gives the
summary.

Doing it again changes nothing, although the walk goes through registries that differ from the
result as long as identities repeat.  So the two results are compared as a whole: a sound
registry is determined by its keys, that is positions and identities, and by what it gives for
each identity, and both stay.
-/
import ModelGateway.Proofs.Registry.Lookup

namespace ModelGateway.Registry

variable {r r' : Registry} {e : Endpoint} {id : EndpointId} {source : SourceKey}
  {found : List Endpoint}

/-! ### What a sound registry is determined by -/

/-- The position and the identity of every slot. -/
def keys (r : Registry) : List (Nat × EndpointId) := r.slots.map fun s => (s.position, s.endpoint.id)

theorem mem_keys : id ∈ r.keys.map (·.2) ↔ ∃ e ∈ r.endpoints, e.id = id := by
  rw [keys, endpoints, List.map_map]
  simp

theorem Sound.eq_of_same (h : Sound r) (h' : Sound r') (hkeys : r.keys = r'.keys)
    (hnext : r.next = r'.next) (hget : ∀ id, r.get? id = r'.get? id) : r = r' := by
  have hslots : r.slots = r'.slots := by
    refine List.ext_getElem (by simpa [keys] using congrArg List.length hkeys) fun i hi hi' => ?_
    have hkey : (r.slots[i].position, r.slots[i].endpoint.id) =
        (r'.slots[i].position, r'.slots[i].endpoint.id) := by
      have hboth := List.getElem_of_eq hkeys (i := i) (by simpa [keys] using hi)
      simpa [keys] using hboth
    obtain ⟨hposition, hid⟩ := Prod.mk.inj hkey
    have hendpoint : some r.slots[i].endpoint = some r'.slots[i].endpoint := by
      rw [← h.get?_of_mem (List.getElem_mem hi), ← h'.get?_of_mem (List.getElem_mem hi'), hid]
      exact hget _
    generalize r.slots[i] = s, r'.slots[i] = s' at hposition hendpoint
    cases s
    cases s'
    exact congr (congrArg Slot.mk hposition) (Option.some.inj hendpoint)
  have hindex : r.index = r'.index :=
    h.tidy.eq_of_entered h'.tidy fun m p => by rw [h.entered, h'.entered, hslots]
  cases r
  cases r'
  simp_all

/-! ### What an identity stands for afterwards -/

theorem get?_refreshAll_last {state : Registry × Summary} :
    (found.foldl refresh state).1.get? id =
      ((found.filter (·.id == id)).getLast?).or (state.1.get? id) := by
  induction found generalizing state with
  | nil => rfl
  | cons e rest ih =>
    have hstep : (refresh state e).1.get? id = if e.id = id then some e else state.1.get? id :=
      get?_store
    rw [List.foldl_cons, ih, hstep]
    by_cases hid : e.id = id
    · rw [if_pos hid, List.filter_cons_of_pos (by simpa using hid), List.getLast?_cons]
      cases (rest.filter (·.id == id)).getLast? <;> rfl
    · rw [if_neg hid, List.filter_cons_of_neg (by simpa using hid)]

/-- The last finding of an identity stays; without one, what the source contributed goes. -/
theorem Sound.get?_reconcile_last (h : Sound r) :
    (r.reconcile source found).1.get? id =
      (((accepted source found).filter (·.id == id)).getLast?).or
        ((r.get? id).filter (·.source ≠ .discovered source)) := by
  show (List.foldl refresh _ (accepted source found)).1.get? id = _
  rw [get?_refreshAll_last, get?_removeAll]
  cases hlast : ((accepted source found).filter (·.id == id)).getLast? with
  | some e => rfl
  | none =>
    have hnot : id ∉ (accepted source found).map (·.id) := by
      intro hmem
      obtain ⟨e, he, hid⟩ := List.mem_map.mp hmem
      have hnil := List.getLast?_eq_none_iff.mp hlast
      simpa [hid] using List.filter_eq_nil_iff.mp hnil e he
    rw [Option.none_or, Option.none_or]
    cases hget : r.get? id with
    | none => simp
    | some d =>
      obtain ⟨hmem, hid⟩ := get?_id hget
      have hstale : id ∈ r.stale source (accepted source found) ↔
          d.source = .discovered source := by
        rw [mem_stale]
        constructor
        · intro hin
          obtain ⟨e, he, hsource, -, heid⟩ := hin
          have hsame : some e = some d := (h.get?_eq_some.mpr ⟨he, heid⟩).symm.trans hget
          exact Option.some.inj hsame ▸ hsource
        · exact fun hsource => ⟨d, hmem, hsource, hnot, hid⟩
      by_cases hsource : d.source = .discovered source
      · rw [if_pos (hstale.mpr hsource), Option.filter_some, if_neg (by simpa using hsource)]
      · rw [if_neg (hstale.not.mpr hsource), Option.filter_some, if_pos (by simpa using hsource)]

/-! ### What is counted -/

theorem size_store : (r.store e).size = r.size + if (r.slot? e.id).isSome then 0 else 1 := by
  have hlength := congrArg List.length (positions_store (r := r) (e := e))
  rw [List.length_map, List.length_append, List.length_map, fresh] at hlength
  rw [size, hlength, size]
  split <;> rfl

/-- Every finding is counted once, and those that are new make the registry larger. -/
theorem refreshAll_counts (found : List Endpoint) (state : Registry × Summary) :
    let done := found.foldl refresh state
    done.2.added + done.2.refreshed = state.2.added + state.2.refreshed + found.length ∧
      done.2.removed = state.2.removed ∧
      done.1.size + state.2.added = state.1.size + done.2.added := by
  induction found generalizing state with
  | nil => exact ⟨rfl, rfl, rfl⟩
  | cons e rest ih =>
    obtain ⟨hall, hremoved, hsize⟩ := ih (refresh state e)
    have hstore := size_store (r := state.1) (e := e)
    rw [List.foldl_cons, List.length_cons]
    by_cases hknown : (state.1.slot? e.id).isSome = true
    · simp only [refresh, hknown, if_true] at hall hremoved hsize hstore ⊢
      exact ⟨by omega, hremoved, by omega⟩
    · simp only [refresh, hknown, if_false, Bool.false_eq_true] at hall hremoved hsize hstore ⊢
      exact ⟨by omega, hremoved, by omega⟩

theorem slots_removeAll {gone : List EndpointId} :
    (gone.foldl remove r).slots = r.slots.filter fun s => s.endpoint.id ∉ gone := by
  induction gone generalizing r with
  | nil => simp
  | cons g rest ih =>
    rw [List.foldl_cons, ih, slots_remove, List.filter_filter]
    refine List.filter_congr fun s _ => ?_
    simp [Bool.and_comm]

/-- What is stale is told by identity, since no two endpoints share one. -/
theorem Sound.length_stale (h : Sound r) {kept : List Endpoint} :
    (r.stale source kept).length =
      r.slots.countP fun s => s.endpoint.id ∈ r.stale source kept := by
  have hcount : (r.stale source kept).length = r.slots.countP fun s =>
      s.endpoint.source = .discovered source && !(kept.map (·.id)).contains s.endpoint.id := by
    rw [stale, List.length_map, endpoints, ← List.countP_eq_length_filter, List.countP_map]
    rfl
  rw [hcount]
  refine List.countP_congr fun s hs => ?_
  rw [decide_eq_true_eq, mem_stale]
  constructor
  · intro hstale
    refine ⟨s.endpoint, List.mem_map_of_mem hs, ?_⟩
    simpa [-List.mem_map] using hstale
  · intro hin
    obtain ⟨e, he, hsource, hgone, hid⟩ := hin
    have hsame : some e = some s.endpoint :=
      (h.get?_eq_some.mpr ⟨he, hid⟩).symm.trans (h.get?_of_mem hs)
    rw [← Option.some.inj hsame]
    rw [← hid] at hgone
    simpa [-List.mem_map] using ⟨hsource, hgone⟩

/-- Removing the stale ones makes the registry smaller by their number. -/
theorem Sound.size_removeAll (h : Sound r) (source : SourceKey) (kept : List Endpoint) :
    ((r.stale source kept).foldl remove r).size + (r.stale source kept).length = r.size := by
  rw [size, slots_removeAll, ← List.countP_eq_length_filter, h.length_stale, size,
    List.length_eq_countP_add_countP (fun s => decide (s.endpoint.id ∉ r.stale source kept))]
  simp

/-! ### Doing it again -/

/-- Storing an identity that is known moves nothing. -/
theorem store_known (h : e.id ∈ r.keys.map (·.2)) :
    (r.store e).keys = r.keys ∧ (r.store e).next = r.next ∧ (r.slot? e.id).isSome = true := by
  have hknown : (r.slot? e.id).isSome = true := by
    obtain ⟨d, hd, hid⟩ := mem_keys.mp h
    obtain ⟨s, hs, rfl⟩ := List.mem_map.mp hd
    exact List.find?_isSome.mpr ⟨s, hs, by simpa using hid⟩
  obtain ⟨old, hold⟩ := Option.isSome_iff_exists.mp hknown
  refine ⟨?_, ?_, hknown⟩
  · rw [store, hold, keys, keys, List.map_map]
    refine List.map_congr_left fun s _ => ?_
    show ((ite _ _ _ : Slot).position, (ite _ _ _ : Slot).endpoint.id) = _
    split
    · next hid => rw [hid]
    · rfl
  · rw [store, hold]

/-- Findings that are all known move nothing, and none of them is counted as new. -/
theorem refreshAll_known (state : Registry × Summary)
    (h : ∀ e ∈ found, e.id ∈ state.1.keys.map (·.2)) :
    let done := found.foldl refresh state
    done.1.keys = state.1.keys ∧ done.1.next = state.1.next ∧
      done.2 = { state.2 with refreshed := state.2.refreshed + found.length } := by
  induction found generalizing state with
  | nil => exact ⟨rfl, rfl, rfl⟩
  | cons e rest ih =>
    obtain ⟨hkeys, hnext, hknown⟩ := store_known (h e (by simp))
    have hrest : ∀ d ∈ rest, d.id ∈ (refresh state e).1.keys.map (·.2) := by
      intro d hd
      show d.id ∈ (state.1.store e).keys.map (·.2)
      rw [hkeys]
      exact h d (by simp [hd])
    obtain ⟨hkeys', hnext', hcounts⟩ := ih _ hrest
    have hcounted : (refresh state e).2 = { state.2 with refreshed := state.2.refreshed + 1 } := by
      show ite _ _ _ = _
      rw [if_pos hknown]
    refine ⟨hkeys'.trans hkeys, hnext'.trans hnext, ?_⟩
    rw [List.foldl_cons, hcounts, hcounted, List.length_cons]
    simp only [Nat.add_assoc, Nat.add_comm 1]

/-- Reconciling with the same findings again leaves the registry, and finds each of them there. -/
theorem Sound.reconcile_again (h : Sound r) :
    (r.reconcile source found).1.reconcile source found =
      ((r.reconcile source found).1, { refreshed := (accepted source found).length }) := by
  let done := (r.reconcile source found).1
  have hdone : Sound done := reconcile_sound h
  have hget : ∀ id, done.get? id = _ := fun id => h.get?_reconcile_last
  have hstale : done.stale source (accepted source found) = [] := by
    refine List.eq_nil_iff_forall_not_mem.mpr fun id hid => ?_
    obtain ⟨e, he, hsource, hgone, heid⟩ := mem_stale.mp hid
    have hnone : (accepted source found).filter (·.id == id) = [] :=
      List.filter_eq_nil_iff.mpr fun d hd hdid =>
        hgone (List.mem_map.mpr ⟨d, hd, eq_of_beq hdid⟩)
    have hkept : done.get? id = some e := hdone.get?_eq_some.mpr ⟨he, heid⟩
    rw [hget, hnone, List.getLast?_nil, Option.none_or, Option.filter_eq_some_iff] at hkept
    simp [hsource] at hkept
  have hknown : ∀ e ∈ accepted source found, e.id ∈ done.keys.map (·.2) := by
    intro e he
    have hne : (accepted source found).filter (·.id == e.id) ≠ [] :=
      List.ne_nil_of_mem (List.mem_filter.mpr ⟨he, beq_self_eq_true e.id⟩)
    have hkept := hget e.id
    rw [List.getLast?_eq_some_getLast hne, Option.some_or] at hkept
    exact mem_keys.mpr ⟨_, get?_id hkept⟩
  have hagain : done.reconcile source found =
      (accepted source found).foldl refresh (done, { removed := 0 }) := by
    show (accepted source found).foldl refresh
      ((done.stale source (accepted source found)).foldl remove done, _) = _
    rw [hstale]
    rfl
  obtain ⟨hkeys, hnext, hcounts⟩ := refreshAll_known (done, { removed := 0 }) hknown
  rw [← hagain] at hkeys hnext hcounts
  refine Prod.ext ?_ (by simpa using hcounts)
  refine (reconcile_sound hdone).eq_of_same hdone hkeys hnext fun id => ?_
  rw [hdone.get?_reconcile_last, hget]
  cases ((accepted source found).filter (·.id == id)).getLast? with
  | some e => rfl
  | none => simp

/-- **A source's findings replace what it contributed.**  After any changes, reconciling a source
leaves under each identity the last finding that counts; without one, nothing if what was there
was the source's own, and otherwise what was there.  The summary counts every finding that counts
once, as new or as known, and everything of the source that is gone, which is how the number of
endpoints changed.  Doing it again changes nothing, and counts all as known. -/
theorem reconcile_replaces (changes : List Change) (source : SourceKey) (found : List Endpoint) :
    let before := after changes
    let own := accepted source found
    let done := before.reconcile source found
    (∀ id, done.1.get? id =
        ((own.filter (·.id == id)).getLast?).or
          ((before.get? id).filter (·.source ≠ .discovered source))) ∧
      done.2.added + done.2.refreshed = own.length ∧
      done.2.removed = (before.endpoints.countP fun e =>
        e.source = .discovered source ∧ e.id ∉ own.map (·.id)) ∧
      done.1.size + done.2.removed = before.size + done.2.added ∧
      done.1.reconcile source found =
        (done.1, { added := 0, refreshed := own.length, removed := 0 }) := by
  intro before own done
  have h : Sound before := after_sound changes
  obtain ⟨hcounted, hremoved, hsize⟩ := refreshAll_counts own
    ((before.stale source own).foldl remove before,
      { removed := (before.stale source own).length })
  have hgone := h.size_removeAll source own
  refine ⟨fun id => h.get?_reconcile_last, ?_, ?_, ?_, h.reconcile_again⟩
  · rw [Nat.zero_add, Nat.zero_add] at hcounted
    exact hcounted
  · refine hremoved.trans ?_
    rw [stale, List.length_map, ← List.countP_eq_length_filter]
    refine List.countP_congr fun e _ => ?_
    simp [-List.mem_map]
  · have hremoved : done.2.removed = (before.stale source own).length := hremoved
    have hsize : done.1.size + 0 =
        ((before.stale source own).foldl remove before).size + done.2.added := hsize
    omega

end ModelGateway.Registry

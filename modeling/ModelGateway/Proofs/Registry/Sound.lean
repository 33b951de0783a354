/-
The registry agrees with itself.

Slots and index are two structures that every change edits with separate code.  What
keeps them in step is one invariant, `Sound`: positions ascend below the next one to be
given out, no identity has two slots, no endpoint is without models, and a position is
entered under a model exactly when the endpoint in its slot serves that model.

A change is described once, by what it does to the slots and to the pairs that are
entered, and every part of the invariant is read off from that.  The invariant holds of
the empty registry, so it holds after any changes in any order, and a look-up by model
is then the same as walking all endpoints.
-/
import ModelGateway.Proofs.Registry.Index

namespace ModelGateway.Registry

/-- What every change keeps true of a registry. -/
structure Sound (r : Registry) : Prop where
  positions : (r.slots.map (·.position)).Pairwise (· < ·)
  /-- The next position is behind all that are in use. -/
  below : ∀ s ∈ r.slots, s.position < r.next
  ids : (r.slots.map (·.endpoint.id)).Nodup
  /-- Every endpoint serves something. -/
  useful : ∀ s ∈ r.slots, s.endpoint.models.isEmpty = false
  tidy : Tidy r.index
  entered : ∀ m p, Entered r.index m p ↔ ∃ s ∈ r.slots, s.position = p ∧ m ∈ s.endpoint.models

theorem sound_empty : Sound {} :=
  ⟨by simp, by simp, by simp, by simp, tidy_nil, by simp [Entered]⟩

variable {r : Registry} {e : Endpoint} {id : EndpointId} {s t : Slot}

/-! ### Finding a slot -/

theorem slot?_some (h : r.slot? id = some s) : s ∈ r.slots ∧ s.endpoint.id = id :=
  ⟨List.mem_of_find?_eq_some h, by simpa using List.find?_some h⟩

theorem slot?_none (h : r.slot? id = none) : ∀ s ∈ r.slots, s.endpoint.id ≠ id := by
  intro s hs
  simpa using List.find?_eq_none.mp h s hs

/-- One identity has one slot. -/
theorem Sound.slot_unique (h : Sound r) (hs : s ∈ r.slots) (ht : t ∈ r.slots)
    (heq : s.endpoint.id = t.endpoint.id) : s = t :=
  List.inj_on_of_nodup_map h.ids hs ht heq

/-- One position has one slot. -/
theorem Sound.position_unique (h : Sound r) (hs : s ∈ r.slots) (ht : t ∈ r.slots)
    (heq : s.position = t.position) : s = t :=
  List.inj_on_of_nodup_map (nodup_of_ascending Nat.lt_irrefl h.positions) hs ht heq

theorem Sound.slot?_eq_some (h : Sound r) :
    r.slot? id = some s ↔ s ∈ r.slots ∧ s.endpoint.id = id := by
  refine ⟨slot?_some, ?_⟩
  intro hin
  obtain ⟨hs, hid⟩ := hin
  cases hfind : r.slot? id with
  | none => exact absurd hid (slot?_none hfind s hs)
  | some t =>
    obtain ⟨ht, htid⟩ := slot?_some hfind
    rw [h.slot_unique ht hs (htid.trans hid.symm)]

/-! ### What a change does to the slots

Storing puts an endpoint at its identity's place, which is a slot it has or the next
position; nothing else moves.  Removing takes one slot out.
-/

/-- The position of an identity: the one it has, or the next one. -/
def place (r : Registry) (id : EndpointId) : Nat :=
  ((r.slot? id).map (·.position)).getD r.next

/-- The new positions that storing under an identity gives out. -/
def fresh (r : Registry) (id : EndpointId) : List Nat :=
  if (r.slot? id).isSome then [] else [r.next]

theorem positions_store :
    (r.store e).slots.map (·.position) = r.slots.map (·.position) ++ r.fresh e.id := by
  unfold store fresh
  cases h : r.slot? e.id with
  | none => simp
  | some old =>
    have hkeep : ∀ s ∈ r.slots, (if s.endpoint.id = e.id then { s with endpoint := e }
        else s : Slot).position = s.position := by
      intro s _
      split <;> rfl
    simpa using hkeep

theorem ids_store :
    (r.store e).slots.map (·.endpoint.id) =
      r.slots.map (·.endpoint.id) ++ (r.fresh e.id).map fun _ => e.id := by
  unfold store fresh
  cases h : r.slot? e.id with
  | none => simp
  | some old =>
    have hkeep : ∀ s ∈ r.slots, (if s.endpoint.id = e.id then { s with endpoint := e }
        else s : Slot).endpoint.id = s.endpoint.id := by
      intro s _
      split
      · next hid => exact hid.symm
      · rfl
    simpa using hkeep

theorem mem_slots_store (h : Sound r) :
    s ∈ (r.store e).slots ↔
      (s ∈ r.slots ∧ s.endpoint.id ≠ e.id) ∨ s = ⟨r.place e.id, e⟩ := by
  unfold store place
  cases hslot : r.slot? e.id with
  | none =>
    have hne := slot?_none hslot
    simp only [List.mem_append, List.mem_singleton, Option.map_none, Option.getD_none]
    constructor
    · intro hin
      rcases hin with hs | hs
      · exact Or.inl ⟨hs, hne s hs⟩
      · exact Or.inr hs
    · intro hin
      rcases hin with ⟨hs, -⟩ | hs
      · exact Or.inl hs
      · exact Or.inr hs
  | some old =>
    obtain ⟨hold, hid⟩ := slot?_some hslot
    simp only [List.mem_map, Option.map_some, Option.getD_some]
    constructor
    · intro hin
      obtain ⟨t, ht, rfl⟩ := hin
      split
      · next htid =>
        rw [h.slot_unique ht hold (htid.trans hid.symm)]
        exact Or.inr rfl
      · next htid => exact Or.inl ⟨ht, htid⟩
    · intro hin
      rcases hin with ⟨hs, hne⟩ | rfl
      · exact ⟨s, hs, if_neg hne⟩
      · exact ⟨old, hold, if_pos hid⟩

theorem slots_remove :
    (r.remove id).slots = r.slots.filter fun s => s.endpoint.id ≠ id := by
  unfold remove
  cases hslot : r.slot? id with
  | none =>
    refine (List.filter_eq_self.mpr fun s hs => ?_).symm
    simpa using slot?_none hslot s hs
  | some old => rfl

theorem mem_slots_remove : s ∈ (r.remove id).slots ↔ s ∈ r.slots ∧ s.endpoint.id ≠ id := by
  rw [slots_remove]
  simp

theorem slots_remove_sublist : (r.remove id).slots.Sublist r.slots := by
  rw [slots_remove]
  exact List.filter_sublist

theorem next_le_store : r.next ≤ (r.store e).next := by
  unfold store
  cases hslot : r.slot? e.id <;> simp

theorem place_lt_next (h : Sound r) : r.place e.id < (r.store e).next := by
  unfold place store
  cases hslot : r.slot? e.id with
  | none => simp
  | some old => simpa using h.below old (slot?_some hslot).1

/-- No slot but the identity's own is at its place. -/
theorem Sound.ne_place (h : Sound r) (hs : s ∈ r.slots) (hid : s.endpoint.id ≠ id) :
    s.position ≠ r.place id := by
  unfold place
  cases hslot : r.slot? id with
  | none => exact Nat.ne_of_lt (h.below s hs)
  | some old =>
    intro heq
    obtain ⟨hold, holdid⟩ := slot?_some hslot
    exact hid (h.position_unique hs hold heq ▸ holdid)

end ModelGateway.Registry

/-
What is new comes last.

A change keeps the order of what was there before and still is, whatever else it replaces,
and puts behind it what is new, as that first appears in what the change brings.  Storing and
removing show this at once.  A reconciliation removes and stores many times over, but what it
removes it does not bring, so what is new to it is new to the registry it began with.

From one change the run follows: what was there all along is in front, in its old order, and
whatever was away at some time is behind it, even if it had been further in front before.
-/
import Mathlib.Data.List.Induction
import ModelGateway.Proofs.Registry.Parts

namespace ModelGateway.Registry

variable {r : Registry} {e : Endpoint} {id : EndpointId} {source : SourceKey}

/-- The identities of all endpoints, in their order. -/
def ids (r : Registry) : List EndpointId := r.endpoints.map (·.id)

/-- The identities of the endpoints that serve a model, in their order. -/
def servingIds (r : Registry) (model : String) : List EndpointId := (r.serving model).map (·.id)

/-- What a change brings that counts. -/
def Change.brought : Change → List Endpoint
  | .put e => if e.models.isEmpty then [] else [e]
  | .remove _ => []
  | .reconcile source found => accepted source found

/-- The identities that a change brings and that are not there yet, as each first appears. -/
def newcomers (r : Registry) (c : Change) : List EndpointId :=
  (c.brought.map (·.id)).eraseDups.filter (· ∉ r.ids)

/-- Whether an identity is there after each of several changes. -/
def stays (r : Registry) : List Change → EndpointId → Bool
  | [], _ => true
  | c :: rest, id => decide (id ∈ (r.change c).ids) && (r.change c).stays rest id

/-! ### Lists with something new at the end -/

section Kept

variable {old new now : List EndpointId} {kept : EndpointId → Bool}

/-- What was kept is told from what is there now. -/
theorem filter_mem_now (h : now = old.filter kept ++ new) (hnew : ∀ x ∈ new, x ∉ old) :
    old.filter (· ∈ now) = old.filter kept := by
  refine List.filter_congr fun x hx => ?_
  by_cases hkept : kept x = true
  · have hnow : x ∈ now := h ▸ List.mem_append_left _ (List.mem_filter.mpr ⟨hx, hkept⟩)
    simp [hnow, hkept]
  · have hnow : x ∉ now := by
      intro hin
      rw [h] at hin
      rcases List.mem_append.mp hin with hin | hin
      · exact hkept (List.of_mem_filter hin)
      · exact hnew x hin hx
    simp [hnow, hkept]

/-- Some entries with keys of their own are told from their keys. -/
theorem map_filter_eq {α : Type} {key : α → EndpointId} {list : List α} (p : α → Bool)
    (h : (list.map key).Nodup) :
    (list.filter p).map key = (list.map key).filter (· ∈ (list.filter p).map key) := by
  rw [List.filter_map]
  congr 1
  refine List.filter_congr fun a ha => ?_
  by_cases hp : p a = true
  · have hmem : key a ∈ (list.filter p).map key :=
      List.mem_map_of_mem (List.mem_filter.mpr ⟨ha, hp⟩)
    simp only [Function.comp_apply, hmem, hp, decide_true]
  · have hmem : key a ∉ (list.filter p).map key := by
      intro hin
      obtain ⟨b, hb, hkey⟩ := List.mem_map.mp hin
      obtain ⟨hb, hpb⟩ := List.mem_filter.mp hb
      exact hp (List.inj_on_of_nodup_map h hb ha hkey ▸ hpb)
    simp [hmem, hp, -List.mem_map]

end Kept

/-! ### One change -/

theorem mem_ids : id ∈ r.ids ↔ (r.get? id).isSome = true := by
  rw [← isSome_slot?, slot?, List.find?_isSome, ids, endpoints, List.map_map]
  simp

theorem store_ids : (r.store e).ids = r.ids ++ if e.id ∈ r.ids then [] else [e.id] := by
  simp only [mem_ids]
  exact ids_endpoints_store

theorem ids_removeAll (gone : List EndpointId) :
    (gone.foldl remove r).ids = r.ids.filter (· ∉ gone) := by
  rw [ids, endpoints, slots_removeAll, ids, endpoints, List.map_map, List.map_map, List.filter_map]
  rfl

/-- What is stored one after the other comes last as it first appears, unless it is known. -/
theorem ids_refreshAll (found : List Endpoint) (state : Registry × Summary) :
    (found.foldl refresh state).1.ids =
      state.1.ids ++ (found.map (·.id)).eraseDups.filter (· ∉ state.1.ids) := by
  induction found using List.reverseRecOn with
  | nil => simp
  | append_singleton front e ih =>
    rw [List.foldl_concat]
    show (Registry.store _ e).ids = _
    rw [store_ids, ih, List.map_append, List.eraseDups_append, List.filter_append,
      List.append_assoc]
    congr 2
    by_cases hstate : e.id ∈ state.1.ids
    · simp [hstate, List.removeAll]
    · by_cases hfront : e.id ∈ front.map (·.id)
      · simp [hstate, hfront, List.removeAll, -List.mem_map]
      · simp [hstate, hfront, List.removeAll, List.eraseDups_cons, -List.mem_map]

/-- A change keeps some of what is there and puts behind it what is new. -/
theorem ids_change (r : Registry) (c : Change) :
    ∃ kept, (r.change c).ids = r.ids.filter kept ++ r.newcomers c := by
  cases c with
  | put e =>
    refine ⟨fun _ => true, ?_⟩
    rw [List.filter_true]
    show (r.put e).ids = _
    simp only [put, newcomers, Change.brought]
    by_cases hempty : e.models.isEmpty = true
    · simp [hempty]
    · rw [if_neg hempty, if_neg hempty, store_ids]
      by_cases he : e.id ∈ r.ids <;> simp [he, List.eraseDups_cons]
  | remove id =>
    refine ⟨(· ∉ [id]), ?_⟩
    show ([id].foldl remove r).ids = _
    rw [ids_removeAll]
    simp [newcomers, Change.brought]
  | reconcile source found =>
    let gone := r.stale source (accepted source found)
    refine ⟨(· ∉ gone), ?_⟩
    show (List.foldl refresh (gone.foldl remove r, _) (accepted source found)).1.ids = _
    rw [ids_refreshAll, ids_removeAll]
    congr 1
    -- what is brought is not among what was removed, so new to the rest is new altogether
    refine List.filter_congr fun x hx => ?_
    have hbrought : x ∉ gone := by
      intro hgone
      obtain ⟨-, -, -, hnot, -⟩ := mem_stale.mp hgone
      exact hnot (List.mem_eraseDups.mp hx)
    simp [hbrought]

theorem newcomers_new (r : Registry) (c : Change) : ∀ x ∈ r.newcomers c, x ∉ r.ids := by
  intro x hx
  simpa using List.of_mem_filter hx

/-- What was there before and still is keeps its order, and what is new comes last. -/
theorem ids_change_eq (r : Registry) (c : Change) :
    (r.change c).ids = r.ids.filter (· ∈ (r.change c).ids) ++ r.newcomers c := by
  obtain ⟨kept, h⟩ := ids_change r c
  rw [filter_mem_now h (newcomers_new r c)]
  exact h

/-! ### The endpoints that serve a model -/

theorem Sound.nodup_ids (h : Sound r) : r.ids.Nodup := by
  rw [Registry.ids, endpoints, List.map_map]
  exact h.ids

theorem Sound.servingIds_eq (h : Sound r) (model : String) :
    r.servingIds model = r.ids.filter (· ∈ r.servingIds model) := by
  rw [servingIds, h.serving_eq_filter]
  exact map_filter_eq _ h.nodup_ids

theorem Sound.servingIds_subset (h : Sound r) {model : String} (hid : id ∈ r.servingIds model) :
    id ∈ r.ids := by
  rw [h.servingIds_eq] at hid
  exact List.mem_of_mem_filter hid

/-- The endpoints that serve a model after a change: those that were there, in their order, and
behind them those that are new. -/
theorem Sound.servingIds_change (h : Sound r) (c : Change) (model : String) :
    (r.change c).servingIds model =
      r.ids.filter (· ∈ (r.change c).servingIds model) ++
        (r.newcomers c).filter (· ∈ (r.change c).servingIds model) := by
  have hdone : Sound (r.change c) := change_sound h
  have hnow : ∀ x ∈ r.ids, (decide (x ∈ (r.change c).servingIds model) &&
      decide (x ∈ (r.change c).ids)) = decide (x ∈ (r.change c).servingIds model) := by
    intro x _
    by_cases hx : x ∈ (r.change c).servingIds model
    · simp [hx, hdone.servingIds_subset hx]
    · simp [hx]
  calc (r.change c).servingIds model
      = (r.change c).ids.filter (· ∈ (r.change c).servingIds model) := hdone.servingIds_eq model
    _ = (r.ids.filter (· ∈ (r.change c).ids) ++ r.newcomers c).filter
          (· ∈ (r.change c).servingIds model) := by rw [← ids_change_eq]
    _ = _ := by
      rw [List.filter_append, List.filter_filter, List.filter_congr hnow]

/-- Those that serve a model before and after a change keep their order. -/
theorem Sound.servingIds_common (h : Sound r) (c : Change) (model : String) :
    (r.servingIds model).filter (· ∈ (r.change c).servingIds model) =
      ((r.change c).servingIds model).filter (· ∈ r.servingIds model) := by
  have hnew : ((r.newcomers c).filter (· ∈ (r.change c).servingIds model)).filter
      (· ∈ r.servingIds model) = [] := by
    refine List.filter_eq_nil_iff.mpr fun x hx => ?_
    have hold := newcomers_new r c x (List.mem_of_mem_filter hx)
    simpa using fun hserving => hold (h.servingIds_subset hserving)
  have hserving : ∀ x, (decide (x ∈ (r.change c).servingIds model) &&
      decide (x ∈ r.servingIds model)) = (decide (x ∈ r.servingIds model) &&
        decide (x ∈ (r.change c).servingIds model)) := fun x => Bool.and_comm _ _
  calc (r.servingIds model).filter (· ∈ (r.change c).servingIds model)
      = r.ids.filter fun x => decide (x ∈ (r.change c).servingIds model) &&
          decide (x ∈ r.servingIds model) := by
        rw [h.servingIds_eq, List.filter_filter, ← h.servingIds_eq]
    _ = (r.ids.filter (· ∈ (r.change c).servingIds model)).filter (· ∈ r.servingIds model) := by
        rw [List.filter_filter]
        simp only [hserving]
    _ = ((r.change c).servingIds model).filter (· ∈ r.servingIds model) := by
        conv_rhs => rw [h.servingIds_change c, List.filter_append, hnew, List.append_nil]

/-! ### Many changes -/

/-- What was there all along is in front, in its order, and all behind it was away at some time. -/
theorem ids_changes (r : Registry) (changes : List Change) :
    ∃ others, (changes.foldl change r).ids = r.ids.filter (r.stays changes) ++ others ∧
      ∀ x ∈ others, x ∈ r.ids → r.stays changes x = false := by
  induction changes generalizing r with
  | nil => exact ⟨[], by simp [stays], by simp⟩
  | cons c rest ih =>
    obtain ⟨others, hids, hothers⟩ := ih (r.change c)
    refine ⟨(r.newcomers c).filter ((r.change c).stays rest) ++ others, ?_, ?_⟩
    · rw [List.foldl_cons, hids, ids_change_eq, List.filter_append, List.filter_filter,
        List.append_assoc]
      congr 1
      refine List.filter_congr fun x _ => ?_
      rw [stays, Bool.and_comm]
    · intro x hx hold
      by_cases hnext : x ∈ (r.change c).ids
      · rcases List.mem_append.mp hx with hx | hx
        · exact absurd hold (newcomers_new r c x (List.mem_of_mem_filter hx))
        · simp [stays, hothers x hx hnext]
      · simp [stays, hnext]

/-- **What is new comes last.**  After any changes, one more keeps what was there before and still
is in its order, among all endpoints and among those that serve a model, whatever it replaces; and
behind all of it comes what is new, as it first appears in what the change brings.  Over any
further changes, what is there all along stays in front, in its order, and whatever is away at some
time and comes back is behind it. -/
theorem new_comes_last (changes : List Change) :
    let before := after changes
    (∀ c, let done := before.change c
      done.ids = before.ids.filter (· ∈ done.ids) ++ before.newcomers c ∧
        ∀ model,
          done.servingIds model =
              before.ids.filter (· ∈ done.servingIds model) ++
                (before.newcomers c).filter (· ∈ done.servingIds model) ∧
            (before.servingIds model).filter (· ∈ done.servingIds model) =
              (done.servingIds model).filter (· ∈ before.servingIds model)) ∧
      ∀ later, ∃ others,
        (after (changes ++ later)).ids = before.ids.filter (before.stays later) ++ others ∧
          ∀ id ∈ others, id ∈ before.ids → before.stays later id = false := by
  intro before
  have hsound : Sound before := after_sound changes
  refine ⟨?_, ?_⟩
  · intro c done
    refine ⟨ids_change_eq before c, fun model => ?_⟩
    exact ⟨hsound.servingIds_change c model, hsound.servingIds_common c model⟩
  · intro later
    have hrun : after (changes ++ later) = later.foldl change before := List.foldl_append
    rw [hrun]
    exact ids_changes before later

end ModelGateway.Registry

/-
What a reconciliation depends on.

A source that goes by identities of its own reads and writes nothing else.  So on two
registries that agree about these identities a reconciliation counts the same and leaves the
same, whatever else is in them; and about every other identity it leaves a registry as it was.

Where endpoints stand is another matter, since what is new comes last.  But what was there
before and still is keeps its order in front of it, so it is told from the identities there
were and from what the registry has for them now.
-/
import ModelGateway.Proofs.Registry.Order
import ModelGateway.Proofs.Registry.Replacement

namespace ModelGateway.Registry

variable {r r' : Registry} {e : Endpoint} {id : EndpointId} {source : SourceKey}
  {found : List Endpoint} {own : EndpointId → Prop}

/-- Two registries have the same under certain identities. -/
def SameOn (own : EndpointId → Prop) (r r' : Registry) : Prop := ∀ id, own id → r.get? id = r'.get? id

/-! ### What is gone -/

theorem Sound.nodup_endpoints (h : Sound r) : r.endpoints.Nodup := by
  refine List.Nodup.of_map Endpoint.id ?_
  rw [endpoints, List.map_map]
  exact h.ids

/-- What a source no longer finds is told from its own identities. -/
theorem SameOn.stale_perm (h : Sound r) (h' : Sound r') (hsame : SameOn own r r')
    (hown : ∀ e ∈ r.endpoints, e.source = .discovered source → own e.id)
    (hown' : ∀ e ∈ r'.endpoints, e.source = .discovered source → own e.id)
    (kept : List Endpoint) : (r.stale source kept).Perm (r'.stale source kept) := by
  refine List.Perm.map _ ?_
  refine (List.perm_ext_iff_of_nodup (h.nodup_endpoints.filter _) (h'.nodup_endpoints.filter _)).mpr
    fun e => ?_
  simp only [List.mem_filter, Bool.and_eq_true, decide_eq_true_eq]
  refine and_congr_left fun hstale => ?_
  constructor
  · intro he
    have hget := h.get?_eq_some.mpr ⟨he, rfl⟩
    rw [hsame _ (hown e he hstale.1)] at hget
    exact (get?_id hget).1
  · intro he
    have hget := h'.get?_eq_some.mpr ⟨he, rfl⟩
    rw [← hsame _ (hown' e he hstale.1)] at hget
    exact (get?_id hget).1

/-- Two registries that have the same under every identity have the same endpoints. -/
theorem Sound.endpoints_perm (h : Sound r) (h' : Sound r') (hsame : ∀ id, r.get? id = r'.get? id) :
    r.endpoints.Perm r'.endpoints := by
  refine (List.perm_ext_iff_of_nodup h.nodup_endpoints h'.nodup_endpoints).mpr fun e => ?_
  have hmine : r.get? e.id = some e ↔ e ∈ r.endpoints ∧ e.id = e.id := h.get?_eq_some
  rw [hsame e.id, h'.get?_eq_some] at hmine
  simpa using hmine.symm

theorem Sound.serving_perm (h : Sound r) (h' : Sound r') (hsame : ∀ id, r.get? id = r'.get? id)
    (m : String) : (r.serving m).Perm (r'.serving m) := by
  rw [h.serving_eq_filter, h'.serving_eq_filter]
  exact (h.endpoints_perm h' hsame).filter _

/-! ### What is counted -/

theorem isSome_slot? : (r.slot? id).isSome = (r.get? id).isSome := by
  rw [get?, Option.isSome_map]

/-- What is counted is told from the identities that are counted. -/
theorem refreshAll_summary {s : Summary} (hfound : ∀ e ∈ found, own e.id) (hsame : SameOn own r r') :
    (found.foldl refresh (r, s)).2 = (found.foldl refresh (r', s)).2 := by
  induction found generalizing r r' s with
  | nil => rfl
  | cons e rest ih =>
    have hknown : (r.slot? e.id).isSome = (r'.slot? e.id).isSome := by
      rw [isSome_slot?, isSome_slot?, hsame e.id (hfound e (by simp))]
    have hstored : SameOn own (r.store e) (r'.store e) := by
      intro id hid
      rw [get?_store, get?_store, hsame id hid]
    rw [List.foldl_cons, List.foldl_cons, refresh, refresh, hknown]
    exact ih (fun d hd => hfound d (by simp [hd])) hstored

section Reconcile

variable (h : Sound r) (hown : ∀ e ∈ r.endpoints, e.source = .discovered source → own e.id)
  (hfound : ∀ e ∈ accepted source found, own e.id)

include h hown hfound in
/-- A reconciliation on registries that agree about the source's identities counts the same, and
leaves them in agreement. -/
theorem SameOn.reconcile (h' : Sound r')
    (hown' : ∀ e ∈ r'.endpoints, e.source = .discovered source → own e.id) (hsame : SameOn own r r') :
    (r.reconcile source found).2 = (r'.reconcile source found).2 ∧
      SameOn own (r.reconcile source found).1 (r'.reconcile source found).1 := by
  have hstale := hsame.stale_perm h h' hown hown' (accepted source found)
  constructor
  · have hremoved : SameOn own ((r.stale source (accepted source found)).foldl remove r)
        ((r'.stale source (accepted source found)).foldl remove r') := by
      intro id hid
      simp only [get?_removeAll, hstale.mem_iff, hsame id hid]
    show (List.foldl refresh (_, { removed := _ }) _).2 = (List.foldl refresh (_, { removed := _ }) _).2
    rw [hstale.length_eq]
    exact refreshAll_summary hfound hremoved
  · intro id hid
    rw [h.get?_reconcile_last, h'.get?_reconcile_last, hsame id hid]

include h hown hfound in
/-- A reconciliation leaves what is not the source's own. -/
theorem Sound.get?_reconcile_apart (hid : ¬ own id) :
    (r.reconcile source found).1.get? id = r.get? id := by
  have hnone : (accepted source found).filter (·.id == id) = [] :=
    List.filter_eq_nil_iff.mpr fun e he heq => hid (eq_of_beq heq ▸ hfound e he)
  rw [h.get?_reconcile_last, hnone, List.getLast?_nil, Option.none_or]
  cases hget : r.get? id with
  | none => rfl
  | some e =>
    obtain ⟨he, heid⟩ := get?_id hget
    refine Option.filter_eq_some_iff.mpr ⟨rfl, ?_⟩
    exact decide_eq_true fun hsource => hid (heid ▸ hown e he hsource)

end Reconcile

/-! ### What was there before -/

/-- In front is some of what was there before, in its order, and all behind it is new. -/
def Follows (old : List EndpointId) (r : Registry) : Prop :=
  ∃ kept new, r.endpoints.map (·.id) = old.filter kept ++ new ∧ ∀ id ∈ new, id ∉ old

theorem follows_self (r : Registry) : Follows (r.endpoints.map (·.id)) r :=
  ⟨fun _ => true, [], by simp, by simp⟩

variable {old : List EndpointId}

theorem Follows.remove (h : Follows old r) : Follows old (r.remove id) := by
  obtain ⟨kept, new, hids, hnew⟩ := h
  refine ⟨fun x => kept x && decide (x ≠ id), new.filter (· ≠ id), ?_,
    fun x hx => hnew x (List.mem_of_mem_filter hx)⟩
  have hmap : (r.endpoints.filter fun e => e.id ≠ id).map (·.id) =
      (r.endpoints.map (·.id)).filter (· ≠ id) := by
    rw [List.filter_map]
    rfl
  rw [endpoints_remove, hmap, hids, List.filter_append, List.filter_filter]
  simp only [Bool.and_comm]

theorem ids_endpoints_store : (r.store e).endpoints.map (·.id) =
    r.endpoints.map (·.id) ++ if (r.get? e.id).isSome then [] else [e.id] := by
  have hids : (r.store e).slots.map (·.endpoint.id) = _ := ids_store
  rw [fresh, isSome_slot?] at hids
  rw [endpoints, endpoints, List.map_map, List.map_map]
  refine hids.trans (congrArg _ ?_)
  split <;> rfl

/-- What is stored keeps its place, or is new and comes last. -/
theorem Follows.store (h : Follows old r) (he : e.id ∈ old → (r.get? e.id).isSome = true) :
    Follows old (r.store e) := by
  obtain ⟨kept, new, hids, hnew⟩ := h
  rw [Follows, ids_endpoints_store, hids]
  by_cases hknown : (r.get? e.id).isSome = true
  · rw [if_pos hknown, List.append_nil]
    exact ⟨kept, new, rfl, hnew⟩
  · rw [if_neg hknown, List.append_assoc]
    refine ⟨kept, new ++ [e.id], rfl, fun x hx => ?_⟩
    rcases List.mem_append.mp hx with hx | hx
    · exact hnew x hx
    · rw [List.mem_singleton.mp hx]
      exact fun hin => hknown (he hin)

/-- A reconciliation whose source still has all that it had before adds nothing old at the end. -/
theorem Follows.reconcile (h : Follows old r)
    (hfound : ∀ e ∈ accepted source found, e.id ∈ old → (r.get? e.id).isSome = true) :
    Follows old (r.reconcile source found).1 := by
  refine (reconcile_induction (motive := fun r' => Follows old r' ∧
    ∀ e ∈ accepted source found, e.id ∈ old → (r'.get? e.id).isSome = true) ⟨h, hfound⟩ ?_ ?_).1
  · intro r' hr' gone hgone
    obtain ⟨hfollows, hkept⟩ := hr'
    refine ⟨hfollows.remove, fun e he hold => ?_⟩
    obtain ⟨-, -, -, hnot, -⟩ := mem_stale.mp hgone
    have hne : gone ≠ e.id := fun heq => hnot (heq ▸ List.mem_map_of_mem he)
    rw [get?_remove, if_neg hne]
    exact hkept e he hold
  · intro r' hr' e he
    obtain ⟨hfollows, hkept⟩ := hr'
    refine ⟨hfollows.store (hkept e he), fun d hd hold => ?_⟩
    rw [get?_store]
    split
    · rfl
    · exact hkept d hd hold

/-- What was there before and still is stands in front, in its order, as it is now. -/
theorem Follows.endpoints (h : Follows old r) (hsound : Sound r) :
    ∃ new, r.endpoints = old.filterMap r.get? ++ new ∧ ∀ e ∈ new, e.id ∉ old := by
  obtain ⟨kept, new, hids, hnew⟩ := h
  obtain ⟨front, behind, hsplit, hfront, hbehind⟩ := List.map_eq_append_iff.mp hids
  refine ⟨behind, ?_, fun e he => hnew _ (hbehind ▸ List.mem_map_of_mem he)⟩
  have hlost : ∀ id ∈ old, kept id = false → r.get? id = none := by
    intro id hid hkept
    refine Option.eq_none_iff_forall_ne_some.mpr fun e he => ?_
    obtain ⟨hmem, rfl⟩ := get?_id he
    have hin : e.id ∈ old.filter kept ++ new := hids ▸ List.mem_map_of_mem hmem
    rcases List.mem_append.mp hin with hin | hin
    · rw [List.of_mem_filter hin] at hkept
      cases hkept
    · exact hnew _ hin hid
  rw [hsplit]
  congr 1
  calc front = front.filterMap fun e => r.get? e.id := by
        rw [List.filterMap_congr fun e he => hsound.get?_eq_some.mpr
          ⟨hsplit ▸ List.mem_append_left _ he, rfl⟩, List.filterMap_some]
    _ = (old.filter kept).filterMap r.get? := by
        rw [← hfront, List.filterMap_map]
        rfl
    _ = old.filterMap r.get? := by
        rw [List.filterMap_filter]
        refine List.filterMap_congr fun id hid => ?_
        cases hkept : kept id with
        | true => rfl
        | false => exact (hlost id hid hkept).symm

end ModelGateway.Registry

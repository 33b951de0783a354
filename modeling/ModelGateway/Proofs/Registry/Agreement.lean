/-
A look-up by model is a walk over all endpoints.

Every change keeps `Sound`, so it holds after any changes in any order.  From it the two
structures are compared: what the index says of a model is the ascending list of the
positions whose endpoints serve it, so following those positions gives the endpoints
that serve it, in the order of the slots.
-/
import ModelGateway.Proofs.Registry.Sound

namespace ModelGateway.Registry

variable {r : Registry} {e : Endpoint} {id : EndpointId}

/-! ### Storing -/

theorem tidy_store (h : Sound r) : Tidy (r.store e).index := by
  unfold store
  cases r.slot? e.id with
  | none => exact tidy_enterAll h.tidy
  | some old => exact tidy_enterAll (tidy_strikeAll h.tidy)

/-- Storing strikes whatever stood at the place and enters what the endpoint serves there. -/
theorem entered_store (h : Sound r) {m : String} {p : Nat} :
    Entered (r.store e).index m p ↔
      (Entered r.index m p ∧ p ≠ r.place e.id) ∨ (m ∈ e.models ∧ p = r.place e.id) := by
  unfold store place
  cases hslot : r.slot? e.id with
  | none =>
    have hnew : Entered r.index m p → p ≠ r.next := by
      intro hp
      obtain ⟨s, hs, hpos, -⟩ := (h.entered m p).mp hp
      have hlt := h.below s hs
      omega
    simp only [Option.map_none, Option.getD_none]
    rw [entered_enterAll]
    constructor
    · intro hp
      rcases hp with hp | hp
      · exact Or.inr hp
      · exact Or.inl ⟨hp, hnew hp⟩
    · intro hp
      rcases hp with ⟨hp, -⟩ | hp
      · exact Or.inr hp
      · exact Or.inl hp
  | some old =>
    have hold : Entered r.index m old.position → m ∈ old.endpoint.models := by
      intro hp
      obtain ⟨s, hs, hpos, hm⟩ := (h.entered m _).mp hp
      exact h.position_unique hs (slot?_some hslot).1 hpos ▸ hm
    simp only [Option.map_some, Option.getD_some]
    rw [entered_enterAll, entered_strikeAll h.tidy]
    constructor
    · intro hp
      rcases hp with hp | ⟨hp, hne⟩
      · exact Or.inr hp
      · refine Or.inl ⟨hp, fun heq => hne ⟨hold (heq ▸ hp), heq⟩⟩
    · intro hp
      rcases hp with ⟨hp, hne⟩ | hp
      · exact Or.inr ⟨hp, fun hc => hne hc.2⟩
      · exact Or.inl hp

theorem store_sound (h : Sound r) (hm : e.models.isEmpty = false) : Sound (r.store e) where
  positions := by
    rw [positions_store, fresh]
    split
    · simpa using h.positions
    · refine List.pairwise_append.mpr ⟨h.positions, by simp, fun p hp q hq => ?_⟩
      obtain ⟨s, hs, hpos⟩ := List.mem_map.mp hp
      have hlt := h.below s hs
      rw [List.mem_singleton.mp hq]
      omega
  below := by
    intro s hs
    rcases (mem_slots_store h).mp hs with ⟨hs, -⟩ | hs
    · exact Nat.lt_of_lt_of_le (h.below s hs) next_le_store
    · rw [hs]
      exact place_lt_next h
  ids := by
    rw [ids_store, fresh]
    cases hslot : r.slot? e.id with
    | some old => simpa using h.ids
    | none =>
      refine List.nodup_append.mpr ⟨h.ids, by simp, fun x hx y hy hxy => ?_⟩
      obtain ⟨s, hs, hid⟩ := List.mem_map.mp hx
      have hy : y = e.id := by simpa using hy
      exact slot?_none hslot s hs (hid.trans (hxy.trans hy))
  useful := by
    intro s hs
    rcases (mem_slots_store h).mp hs with ⟨hs, -⟩ | hs
    · exact h.useful s hs
    · rw [hs]
      exact hm
  tidy := tidy_store h
  entered := by
    intro m p
    rw [entered_store h, h.entered]
    constructor
    · intro hp
      rcases hp with ⟨⟨s, hs, hpos, hsm⟩, hne⟩ | ⟨hp, hpos⟩
      · refine ⟨s, (mem_slots_store h).mpr (Or.inl ⟨hs, fun hid => hne ?_⟩), hpos, hsm⟩
        rw [← hpos, place, h.slot?_eq_some.mpr ⟨hs, hid⟩]
        rfl
      · exact ⟨_, (mem_slots_store h).mpr (Or.inr rfl), hpos.symm, hp⟩
    · intro hp
      obtain ⟨s, hs, hpos, hsm⟩ := hp
      rcases (mem_slots_store h).mp hs with ⟨hs, hid⟩ | hs
      · exact Or.inl ⟨⟨s, hs, hpos, hsm⟩, hpos ▸ h.ne_place hs hid⟩
      · rw [hs] at hpos hsm
        exact Or.inr ⟨hsm, hpos.symm⟩

theorem put_sound (h : Sound r) : Sound (r.put e) := by
  unfold put
  split
  · exact h
  · next hm => exact store_sound h (by simpa using hm)

/-! ### Removing -/

theorem remove_sound (h : Sound r) : Sound (r.remove id) where
  positions := h.positions.sublist (slots_remove_sublist.map _)
  below := by
    have hnext : (r.remove id).next = r.next := by
      unfold remove
      cases r.slot? id <;> rfl
    intro s hs
    rw [hnext]
    exact h.below s (mem_slots_remove.mp hs).1
  ids := h.ids.sublist (slots_remove_sublist.map _)
  useful := fun s hs => h.useful s (mem_slots_remove.mp hs).1
  tidy := by
    unfold remove
    cases r.slot? id with
    | none => exact h.tidy
    | some old => exact tidy_strikeAll h.tidy
  entered := by
    intro m p
    simp only [mem_slots_remove]
    unfold remove
    cases hslot : r.slot? id with
    | none =>
      have hne := slot?_none hslot
      rw [h.entered]
      constructor
      · intro hp
        obtain ⟨s, hs, hpos, hm⟩ := hp
        exact ⟨s, ⟨hs, hne s hs⟩, hpos, hm⟩
      · intro hp
        obtain ⟨s, ⟨hs, -⟩, hpos, hm⟩ := hp
        exact ⟨s, hs, hpos, hm⟩
    | some old =>
      obtain ⟨hold, hid⟩ := slot?_some hslot
      rw [entered_strikeAll h.tidy, h.entered]
      constructor
      · intro hp
        obtain ⟨⟨s, hs, hpos, hm⟩, hne⟩ := hp
        refine ⟨s, ⟨hs, fun hsid => hne ?_⟩, hpos, hm⟩
        rw [h.slot_unique hs hold (hsid.trans hid.symm)] at hpos hm
        exact ⟨hm, hpos.symm⟩
      · intro hp
        obtain ⟨s, ⟨hs, hsid⟩, hpos, hm⟩ := hp
        refine ⟨⟨s, hs, hpos, hm⟩, fun hc => hsid ?_⟩
        rw [h.position_unique hs hold (hpos.trans hc.2), hid]

/-! ### Bringing a source up to date -/

/-- What counts among findings is the source's own and serves something. -/
theorem mem_accepted {source : SourceKey} {found : List Endpoint} :
    e ∈ accepted source found ↔
      e ∈ found ∧ e.source = .discovered source ∧ e.models.isEmpty = false := by
  simp [accepted]

/-- A reconciliation removes what is stale and stores what counts, one after the other; what every
such step keeps, it keeps. -/
theorem reconcile_induction {motive : Registry → Prop} {source : SourceKey}
    {found : List Endpoint} (start : motive r)
    (removing : ∀ r', motive r' → ∀ id ∈ r.stale source (accepted source found),
      motive (r'.remove id))
    (storing : ∀ r', motive r' → ∀ e ∈ accepted source found, motive (r'.store e)) :
    motive (r.reconcile source found).1 := by
  have removed : motive ((r.stale source (accepted source found)).foldl remove r) :=
    List.foldlRecOn _ remove start removing
  refine List.foldlRecOn (motive := fun state => motive state.1) _ refresh ?_
    fun state h e he => storing state.1 h e he
  exact removed

theorem reconcile_sound {source : SourceKey} {found : List Endpoint} (h : Sound r) :
    Sound (r.reconcile source found).1 :=
  reconcile_induction h (fun _ h _ _ => remove_sound h)
    fun _ h _ he => store_sound h (mem_accepted.mp he).2.2

/-! ### Any changes in any order -/

/-- A change of the registry. -/
inductive Change
  | put (e : Endpoint)
  | remove (id : EndpointId)
  | reconcile (source : SourceKey) (found : List Endpoint)

/-- The registry after a change. -/
def change (r : Registry) : Change → Registry
  | .put e => r.put e
  | .remove id => r.remove id
  | .reconcile source found => (r.reconcile source found).1

/-- The registry after changes to the empty one. -/
def after (changes : List Change) : Registry := changes.foldl change {}

theorem change_sound {c : Change} (h : Sound r) : Sound (r.change c) := by
  cases c with
  | put e => exact put_sound h
  | remove id => exact remove_sound h
  | reconcile source found => exact reconcile_sound h

theorem after_sound (changes : List Change) : Sound (after changes) := by
  have run : ∀ {r : Registry}, Sound r → Sound (changes.foldl change r) := by
    induction changes with
    | nil => exact fun h => h
    | cons c rest ih => exact fun h => ih (change_sound h)
  exact run sound_empty

/-! ### Looking up by model -/

/-- A bucket holds the positions that a walk over the slots finds. -/
theorem Sound.bucket_positions (h : Sound r) {b : Bucket} (hb : b ∈ r.index) :
    b.positions = (r.slots.filter (·.endpoint.serves b.model)).map (·.position) := by
  refine eq_of_ascending Nat.lt_irrefl (fun hab hba => Nat.lt_asymm hab hba)
    (h.tidy.positions b hb) (h.positions.sublist (List.filter_sublist.map _)) fun p => ?_
  rw [h.tidy.mem_positions hb, h.entered]
  simp only [List.mem_map, List.mem_filter, Endpoint.serves, decide_eq_true_eq]
  constructor
  · intro hp
    obtain ⟨s, hs, hpos, hm⟩ := hp
    exact ⟨s, ⟨hs, hm⟩, hpos⟩
  · intro hp
    obtain ⟨s, ⟨hs, hm⟩, hpos⟩ := hp
    exact ⟨s, hs, hpos, hm⟩

theorem Sound.at?_position (h : Sound r) {s : Slot} (hs : s ∈ r.slots) :
    r.at? s.position = some s.endpoint := by
  unfold at?
  cases hfind : r.slots.find? (·.position == s.position) with
  | none => simpa using List.find?_eq_none.mp hfind s hs
  | some t =>
    have hpos : t.position = s.position := by simpa using List.find?_some hfind
    rw [h.position_unique (List.mem_of_find?_eq_some hfind) hs hpos]
    rfl

/-- The bucket of a model, if an endpoint serves it. -/
theorem Sound.bucket_of_serves (h : Sound r) {m : String} (he : e ∈ r.endpoints)
    (hm : m ∈ e.models) : ∃ b ∈ r.index, b.model = m := by
  obtain ⟨s, hs, rfl⟩ := List.mem_map.mp he
  obtain ⟨b, hb, hmodel, -⟩ := (h.entered m s.position).mpr ⟨s, hs, rfl, hm⟩
  exact ⟨b, hb, hmodel⟩

/-- The endpoints that the index gives for a model are those that serve it, in order. -/
theorem Sound.serving_eq_filter (h : Sound r) (m : String) :
    r.serving m = r.endpoints.filter (·.serves m) := by
  unfold serving
  cases hfind : r.index.find? (·.model == m) with
  | none =>
    refine (List.filter_eq_nil_iff.mpr fun e he hm => ?_).symm
    obtain ⟨b, hb, hmodel⟩ := h.bucket_of_serves he (by simpa [Endpoint.serves] using hm)
    exact absurd hmodel (by simpa using List.find?_eq_none.mp hfind b hb)
  | some b =>
    have hmodel : b.model = m := by simpa using List.find?_some hfind
    have hslots : ∀ s ∈ r.slots.filter (·.endpoint.serves b.model),
        r.at? s.position = some s.endpoint :=
      fun s hs => h.at?_position (List.mem_of_mem_filter hs)
    show b.positions.filterMap r.at? = r.endpoints.filter (·.serves m)
    rw [h.bucket_positions (List.mem_of_find?_eq_some hfind), List.filterMap_map,
      List.filterMap_congr (g := fun s => some s.endpoint) hslots,
      List.filterMap_eq_map', hmodel, endpoints, List.filter_map]
    rfl

theorem Sound.mem_models (h : Sound r) {m : String} :
    m ∈ r.models ↔ ∃ e ∈ r.endpoints, m ∈ e.models := by
  constructor
  · intro hm
    obtain ⟨b, hb, rfl⟩ := List.mem_map.mp hm
    obtain ⟨p, hp⟩ := List.exists_mem_of_ne_nil _ (h.tidy.inhabited b hb)
    obtain ⟨s, hs, -, hsm⟩ := (h.entered _ p).mp ⟨b, hb, rfl, hp⟩
    exact ⟨s.endpoint, List.mem_map_of_mem hs, hsm⟩
  · intro hm
    obtain ⟨e, he, hem⟩ := hm
    obtain ⟨b, hb, rfl⟩ := h.bucket_of_serves he hem
    exact List.mem_map_of_mem hb

/-- The models are the union of the endpoints' own. -/
theorem Sound.models_eq_union (h : Sound r) :
    r.models = (NameSet.ofList (r.endpoints.flatMap (·.models.toList))).toList := by
  refine eq_of_ascending String.lt_irrefl (fun hab hba => String.lt_asymm hab hba)
    (List.pairwise_map.mpr h.tidy.models) (NameSet.ascending _) fun m => ?_
  have hunion : m ∈ NameSet.ofList (r.endpoints.flatMap (·.models.toList)) ↔
      ∃ e ∈ r.endpoints, m ∈ e.models := NameSet.mem_ofList.trans List.mem_flatMap
  rw [h.mem_models]
  exact hunion.symm

/-- A model is listed exactly if looking it up gives something. -/
theorem Sound.mem_models_iff_serving (h : Sound r) {m : String} :
    m ∈ r.models ↔ r.serving m ≠ [] := by
  rw [h.mem_models, h.serving_eq_filter]
  simp [Endpoint.serves]

/-- **Index and slots agree after any changes.**  Looking a model up gives exactly the endpoints
that serve it, each once and in the order of all endpoints; the models are exactly the union of
what the endpoints serve, so a model is listed if and only if looking it up gives something; and
no endpoint is without models. -/
theorem index_agrees_after (changes : List Change) :
    (∀ m, (after changes).serving m = (after changes).endpoints.filter (·.serves m)) ∧
      ((after changes).endpoints.map (·.id)).Nodup ∧
      (after changes).models =
        (NameSet.ofList ((after changes).endpoints.flatMap (·.models.toList))).toList ∧
      (∀ m, m ∈ (after changes).models ↔ (after changes).serving m ≠ []) ∧
      ∀ e ∈ (after changes).endpoints, e.models.isEmpty = false := by
  have h := after_sound changes
  refine ⟨h.serving_eq_filter, ?_, h.models_eq_union, fun m => h.mem_models_iff_serving, ?_⟩
  · have hids := h.ids
    rwa [endpoints, List.map_map]
  · intro e he
    obtain ⟨s, hs, rfl⟩ := List.mem_map.mp he
    exact h.useful s hs

end ModelGateway.Registry

/-
What one source changes.

Bringing a source up to date takes every one of its identities one look further, and
leaves the identities of other sources where they are.  The second needs that whatever a
source contributed goes by an identity of its own, which is kept up along the way.
-/
import Mathlib.Data.List.Find
import ModelGateway.Discovery.Pass
import ModelGateway.Proofs.Discovery.Standing
import ModelGateway.Proofs.Endpoint.Identity
import ModelGateway.Proofs.Registry.Lookup

namespace ModelGateway

/-- What a finding says of its own identity. -/
def Finding.verdict (f : Finding) : Verdict :=
  match f.outcome with
  | .ok e => .found e
  | .error (.unusable _) => .absent
  | .error _ => .missed

/-- What findings say of an identity. -/
def verdictOf (findings : List Finding) (id : EndpointId) : Verdict :=
  ((findings.find? (·.id == id)).map Finding.verdict).getD .absent

/-- Findings that are a source's own, though they may repeat an identity. -/
structure Owned (source : SourceKey) (findings : List Finding) : Prop where
  named : ∀ f ∈ findings, f.id.OfSource source
  own : ∀ f ∈ findings, ∀ e, f.outcome = .ok e →
    e.id = f.id ∧ e.source = .discovered source ∧ e.models.isEmpty = false

/-- Findings of a source that repeat no identity. -/
structure Fitting (source : SourceKey) (findings : List Finding) : Prop
    extends Owned source findings where
  ids : (findings.map (·.id)).Nodup

namespace Known

/-- Whatever a source contributed goes by an identity of that source, and serves something. -/
def Attributed (k : Known) : Prop :=
  ∀ e ∈ k.registry.endpoints, ∀ source, e.source = .discovered source →
    e.id.OfSource source ∧ e.models.isEmpty = false

/-- What is kept of an identity of a source. -/
def standing (k : Known) (source : SourceKey) (id : EndpointId) : Standing :=
  ⟨k.registry.contributed? source id, k.failureCount source id⟩

variable {k : Known} {limit : Nat} {source other : SourceKey} {findings : List Finding}
  {f : Finding} {id : EndpointId} {e : Endpoint}

/-! ### What counts of a finding -/

/-- The endpoint that a finding contributes, if it counts. -/
def contribution (k : Known) (limit : Nat) (source : SourceKey) (f : Finding) : Option Endpoint :=
  (k.weigh limit source f).1.filter fun e => e.source = .discovered source && !e.models.isEmpty

/-- The failure that a finding leaves. -/
def lapse (k : Known) (limit : Nat) (source : SourceKey) (f : Finding) : Option Failure :=
  (k.weigh limit source f).2

theorem commit_accepted :
    Registry.accepted source ((findings.map (k.weigh limit source)).filterMap (·.1)) =
      findings.filterMap (k.contribution limit source) := by
  rw [Registry.accepted, List.filterMap_map, List.filter_filterMap]
  rfl

theorem commit_failures :
    (k.commit limit source findings).1.failures =
      k.failures.filter (fun f => f.source ≠ source) ++
        findings.filterMap (k.lapse limit source) := by
  show _ ++ (findings.map (k.weigh limit source)).filterMap (·.2) = _
  rw [List.filterMap_map]
  rfl

theorem weigh_id (hown : ∀ e, f.outcome = .ok e → e.id = f.id)
    (h : (k.weigh limit source f).1 = some e) : e.id = f.id := by
  unfold weigh at h
  split at h
  · next d hok => exact hown e (hok.trans (congrArg Except.ok (Option.some.inj h)))
  · simp at h
  · simp only at h
    split at h
    · exact (Registry.get?_id h).2
    · simp at h

theorem contribution_id (hown : Owned source findings) (hf : f ∈ findings)
    (h : k.contribution limit source f = some e) : e.id = f.id :=
  weigh_id (fun d hok => (hown.own f hf d hok).1) (Option.filter_eq_some_iff.mp h).1

/-- What is accepted goes by an identity of the source. -/
theorem contributions_ofSource (hown : Owned source findings)
    (h : e ∈ findings.filterMap (k.contribution limit source)) : e.id.OfSource source := by
  obtain ⟨f, hf, hcontributed⟩ := List.mem_filterMap.mp h
  rw [contribution_id hown hf hcontributed]
  exact hown.named f hf

theorem lapse_key {x : Failure} (h : k.lapse limit source f = some x) :
    x.source = source ∧ x.id = f.id := by
  unfold lapse weigh at h
  split at h
  · simp at h
  · simp at h
  · rw [← Option.some.inj h]
    exact ⟨rfl, rfl⟩

/-! ### The source's own identities -/

theorem nodup_accepted (k : Known) (limit : Nat) (hfit : Fitting source findings) :
    ((findings.filterMap (k.contribution limit source)).map (·.id)).Nodup :=
  Keyed.nodup_filterMap (fun _ hf _ h => contribution_id hfit.toOwned hf h) hfit.ids

/-- What a source contributes after it was brought up to date. -/
theorem commit_contributed (hfit : Fitting source findings) :
    (k.commit limit source findings).1.registry.contributed? source id =
      (findings.find? (·.id == id)).bind (k.contribution limit source) := by
  have hnodup := nodup_accepted k limit hfit
  rw [← commit_accepted] at hnodup
  show ((k.registry.reconcile source _).1).contributed? source id = _
  rw [Registry.contributed?_reconcile hnodup, commit_accepted]
  exact Keyed.find?_filterMap (fun _ hf _ h => contribution_id hfit.toOwned hf h) hfit.ids id

/-- The failures of a source are what its findings leave, and nothing from before. -/
theorem commit_failureCount_eq :
    (k.commit limit source findings).1.failureCount source id =
      (((findings.filterMap (k.lapse limit source)).find? (·.id == id)).map (·.count)).getD 0 := by
  have hothers : (k.failures.filter fun f => f.source ≠ source).find?
      (fun f => f.source == source && f.id == id) = none := by
    refine List.find?_eq_none.mpr fun x hx => ?_
    have hne : x.source ≠ source := by simpa using List.of_mem_filter hx
    simp [hne]
  have hown : (findings.filterMap (k.lapse limit source)).find?
      (fun f => f.source == source && f.id == id) =
        (findings.filterMap (k.lapse limit source)).find? (·.id == id) := by
    refine List.find?_congr fun x hx => ?_
    obtain ⟨f, -, hf⟩ := List.mem_filterMap.mp hx
    simp [(lapse_key hf).1]
  rw [failureCount, commit_failures, List.find?_append, hothers, Option.none_or, hown]

/-- The failures of a source after it was brought up to date. -/
theorem commit_failureCount (hfit : Fitting source findings) :
    (k.commit limit source findings).1.failureCount source id =
      (((findings.find? (·.id == id)).bind (k.lapse limit source)).map (·.count)).getD 0 := by
  rw [commit_failureCount_eq, Keyed.find?_filterMap (fun _ _ _ h => (lapse_key h).2) hfit.ids]

/-- The failures of other sources are what they were. -/
theorem commit_failureCount_other (hne : source ≠ other) (id : EndpointId) :
    (k.commit limit source findings).1.failureCount other id = k.failureCount other id := by
  have hnew : (findings.filterMap (k.lapse limit source)).find?
      (fun f => f.source == other && f.id == id) = none := by
    refine List.find?_eq_none.mpr fun x hx => ?_
    obtain ⟨f, -, hf⟩ := List.mem_filterMap.mp hx
    simp [(lapse_key hf).1, hne]
  have hold : (k.failures.filter fun f => f.source ≠ source).find?
      (fun f => f.source == other && f.id == id) =
        k.failures.find? (fun f => f.source == other && f.id == id) := by
    rw [List.find?_filter]
    congr 1
    funext x
    refine Bool.eq_iff_iff.mpr ?_
    by_cases hx : x.source = other
    · simp [hx, Ne.symm hne]
    · simp [hx]
  rw [failureCount, commit_failures, List.find?_append, hnew, Option.or_none, hold, failureCount]

/-- Bringing a source up to date takes each of its identities one look further. -/
theorem commit_standing (hk : k.Attributed) (hfit : Fitting source findings) (id : EndpointId) :
    (k.commit limit source findings).1.standing source id =
      (k.standing source id).next limit (verdictOf findings id) := by
  rw [standing, commit_contributed hfit, commit_failureCount hfit, verdictOf]
  cases hfind : findings.find? (·.id == id) with
  | none => rfl
  | some f =>
    have hf := List.mem_of_find?_eq_some hfind
    have hid : f.id = id := by simpa using List.find?_some hfind
    simp only [Option.bind_some, Option.map_some, Option.getD_some]
    unfold contribution lapse weigh Finding.verdict
    cases hout : f.outcome with
    | ok e =>
      obtain ⟨-, hsource, hmodels⟩ := hfit.own f hf e hout
      simp [Standing.next, hsource, hmodels]
    | error cause =>
      -- what is in the registry counts already, so being accepted adds nothing
      have hkept : (k.registry.get? id).filter (fun e => e.source = .discovered source &&
          !e.models.isEmpty) = k.registry.contributed? source id := by
        unfold Registry.contributed?
        cases hget : k.registry.get? id with
        | none => rfl
        | some e =>
          rw [Option.filter_some, Option.filter_some]
          by_cases hsource : e.source = .discovered source
          · simp [hsource, (hk e (Registry.get?_id hget).1 source hsource).2]
          · simp [hsource]
      cases cause with
      | unusable cause => rfl
      | _ =>
        by_cases hlt : k.failureCount source id + 1 < limit
        · simp [Standing.next, standing, hid, hlt, hkept]
        · simp [Standing.next, standing, hid, hlt]

/-! ### Everything else -/

theorem commit_attributed (hk : k.Attributed) (hown : Owned source findings) :
    (k.commit limit source findings).1.Attributed := by
  intro e he t ht
  rcases Registry.endpoints_reconcile_subset e he with he | he
  · exact hk e he t ht
  · obtain ⟨hmem, hsource, hmodels⟩ := Registry.mem_accepted.mp he
    rw [commit_accepted] at he
    have hsame : source = t := by
      rw [hsource] at ht
      exact Source.discovered.inj ht
    rw [← hsame]
    exact ⟨contributions_ofSource hown he, hmodels⟩

/-- Bringing a source up to date leaves the identities of other sources as they are. -/
theorem commit_standing_other (hk : k.Attributed) (hfit : Fitting source findings)
    (hne : source ≠ other) (id : EndpointId) :
    (k.commit limit source findings).1.standing other id = k.standing other id := by
  have hcontributed : (k.commit limit source findings).1.registry.contributed? other id =
      k.registry.contributed? other id := by
    by_cases hid : id.OfSource source
    · -- the identity is the source's own, so no other source has anything under it
      have hnone : ∀ {m : Known}, m.Attributed → m.registry.contributed? other id = none := by
        intro m hm
        refine Option.eq_none_iff_forall_ne_some.mpr fun e he => ?_
        obtain ⟨hget, hsource⟩ := Registry.contributed?_eq_some.mp he
        obtain ⟨hmem, heid⟩ := Registry.get?_id hget
        exact hne (hid.unique (heid ▸ (hm e hmem other hsource).1))
      rw [hnone (commit_attributed hk hfit.toOwned), hnone hk]
    · have hnodup := nodup_accepted k limit hfit
      rw [← commit_accepted] at hnodup
      have hget : (k.commit limit source findings).1.registry.get? id = k.registry.get? id := by
        refine Registry.get?_reconcile_other hnodup (fun e he hsource heid => hid ?_) ?_
        · exact heid ▸ (hk e he source hsource).1
        · rw [commit_accepted]
          exact fun e he heid => hid (heid ▸ contributions_ofSource hfit.toOwned he)
      rw [Registry.contributed?, hget, Registry.contributed?]
  rw [standing, hcontributed, commit_failureCount_other hne, standing]

end Known

end ModelGateway

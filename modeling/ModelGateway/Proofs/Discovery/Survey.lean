/-
What a look at a source finds.

The findings of a look are the pods that run with an address, one for each and in their
order, however the questions to them overlap.  So what the findings say of an identity
can be told from the listing: whether its pod is there and can be used, and what came of
describing it.
-/
import ModelGateway.Proofs.Discovery.Commit

namespace ModelGateway

/-! ### A few at a time -/

/-- However few places there are, every job is run, in their order: none starts before the one in
front of it, and none before a place was free. -/
theorem runInPlaces_starts {α : Type} (ended : α → Nat) (jobs : List (Nat → α)) {free : List Nat}
    {first last : Nat} (hfree : free ≠ []) (hascending : free.Pairwise (· ≤ ·))
    (hfirst : ∀ t ∈ free, first ≤ t) (hlast : ∀ t ∈ free, t ≤ last) :
    ∃ starts, starts.length = jobs.length ∧ (first :: starts).Pairwise (· ≤ ·) ∧
      runInPlaces ended free last jobs = (jobs.zip starts).map fun x => x.1 x.2 := by
  induction jobs generalizing free first last with
  | nil =>
    refine ⟨[], rfl, List.pairwise_singleton _ _, ?_⟩
    cases free <;> rfl
  | cons job rest ih =>
    cases free with
    | nil => exact absurd rfl hfree
    | cons start free =>
      -- the place of this job is free again when it and all before it are done
      let done := max last (ended (job start))
      obtain ⟨hbehind, hrest⟩ := List.pairwise_cons.mp hascending
      have hplace : start ≤ done :=
        Nat.le_trans (hlast start List.mem_cons_self) (Nat.le_max_left _ _)
      have hdone : ∀ t ∈ free, t ≤ done := fun t ht =>
        Nat.le_trans (hlast t (List.mem_cons_of_mem _ ht)) (Nat.le_max_left _ _)
      have hascending' : (free ++ [done]).Pairwise (· ≤ ·) :=
        List.pairwise_append.mpr ⟨hrest, List.pairwise_singleton _ _, by simpa using hdone⟩
      have hfirst' : ∀ t ∈ free ++ [done], start ≤ t := by
        intro t ht
        rcases List.mem_append.mp ht with ht | ht
        · exact hbehind t ht
        · rw [List.mem_singleton.mp ht]
          exact hplace
      have hlast' : ∀ t ∈ free ++ [done], t ≤ done := by
        intro t ht
        rcases List.mem_append.mp ht with ht | ht
        · exact hdone t ht
        · rw [List.mem_singleton.mp ht]
      obtain ⟨starts, hlength, hstarts, hrun⟩ := ih (by simp) hascending' hfirst' hlast'
      refine ⟨start :: starts, congrArg (· + 1) hlength, ?_, congrArg (job start :: ·) hrun⟩
      have hstart : first ≤ start := hfirst start List.mem_cons_self
      refine List.pairwise_cons.mpr ⟨fun t ht => ?_, hstarts⟩
      rcases List.mem_cons.mp ht with rfl | ht
      · exact hstart
      · exact Nat.le_trans hstart ((List.pairwise_cons.mp hstarts).1 t ht)

/-! ### Describing a pod -/

/-- What asking for models comes to: some models, or a failure that is not the pod's fault. -/
def Forgivable : Except DiscoveryError NameSet → Prop
  | .ok models => models.isEmpty = false
  | .error cause => ∀ fault, cause ≠ .unusable fault

theorem readListing_forgivable (body : ByteArray) : Forgivable (readListing body) := by
  unfold readListing
  cases listingOutline.read (Json.textBytes body) with
  | error e => exact fun fault => nofun
  | ok ids =>
    simp only
    split
    · exact fun fault => nofun
    · next hempty => exact Bool.eq_false_iff.mpr hempty

theorem judgeListing_forgivable (url : String) (response : Response) :
    Forgivable (judgeListing url response) := by
  unfold judgeListing
  split
  · exact fun fault => nofun
  · cases response.body.collect maxListing with
    | error reason => exact fun fault => nofun
    | ok body => exact readListing_forgivable body

theorem probe_forgivable (net : Network) (limit : Nat) (url : Url) (credential : String)
    (o : Occasion) : Forgivable (probe net limit url credential o).outcome := by
  unfold probe
  cases listingRequest url credential with
  | error reason => exact fun fault => nofun
  | ok request =>
    simp only
    cases ((net.reply o request).within limit).2 with
    | none => exact fun fault => nofun
    | some reply =>
      cases reply with
      | error reason => exact fun fault => nofun
      | ok response => exact judgeListing_forgivable _ response

namespace PodSource

variable {s : PodSource} {lead ip : String} {p : Pod} {o : Occasion}
  {ask : Url → String → Occasion → Inquiry NameSet}

theorem describe_unusable {fault : InvalidAnnotation} (h : baseOf p ip lead = .error fault) :
    (s.describe lead ask p ip o).outcome = .error (.unusable fault) := by
  unfold describe
  rw [h]

/-- A pod that can be used is described as its source's own, or fails forgivably. -/
theorem describe_usable (s : PodSource) (o : Occasion) {base : Url}
    (h : baseOf p ip lead = .ok base)
    (hask : ∀ url credential o, Forgivable (ask url credential o).outcome) :
    (∃ e, (s.describe lead ask p ip o).outcome = .ok e ∧ e.id = .ofPod s.key p.name ip ∧
        e.source = .discovered s.key ∧ e.models.isEmpty = false) ∨
      ∃ cause, (s.describe lead ask p ip o).outcome = .error cause ∧
        ∀ fault, cause ≠ .unusable fault := by
  unfold describe
  rw [h]
  simp only
  split
  · have hasked := hask (s.endpointOf p ip base).listingUrl s.credential o
    cases hout : (ask (s.endpointOf p ip base).listingUrl s.credential o).outcome with
    | error cause =>
      rw [hout] at hasked
      exact Or.inr ⟨cause, rfl, hasked⟩
    | ok models =>
      rw [hout] at hasked
      exact Or.inl ⟨{ s.endpointOf p ip base with models }, rfl, rfl, rfl, hasked⟩
  · next hmodels => exact Or.inl ⟨_, rfl, rfl, rfl, Bool.eq_false_iff.mpr hmodels⟩

/-- What a pod is described as is its source's own, and serves something. -/
theorem describe_ok {e : Endpoint}
    (hask : ∀ url credential o, Forgivable (ask url credential o).outcome)
    (h : (s.describe lead ask p ip o).outcome = .ok e) :
    e.id = .ofPod s.key p.name ip ∧ e.source = .discovered s.key ∧ e.models.isEmpty = false := by
  cases hbase : baseOf p ip lead with
  | error fault => simp [describe_unusable hbase] at h
  | ok base =>
    rcases s.describe_usable o hbase hask with ⟨x, hx, hown⟩ | ⟨cause, hc, -⟩
    · rw [← Except.ok.inj (hx.symm.trans h)]
      exact hown
    · simp [hc] at h

end PodSource

/-! ### Looks -/

/-- A look at every source: the world as it was, and when the look began. -/
structure Look where
  world : World
  began : Nat

/-- The pods of a source that a look lists. -/
def Look.listed (l : Look) (s : PodSource) : Except DiscoveryError (List Pod) :=
  (l.world.list s l.began).outcome

/-- Whether the listing of a source succeeds. -/
def Look.lists (l : Look) (s : PodSource) : Bool := (l.listed s).isOk

theorem mem_addressed {pods : List Pod} {p : Pod} {ip : String} :
    (p, ip) ∈ addressed pods ↔ p ∈ pods ∧ p.isRunning = true ∧ p.ip = some ip := by
  simp [addressed, Pod.address?]

namespace Discoverer

/-- The pod of an identity is listed, runs with an address, and has annotations that can be
used. -/
def Shows (d : Discoverer) (l : Look) (s : PodSource) (id : EndpointId) : Prop :=
  ∃ pods, l.listed s = .ok pods ∧ ∃ p ∈ pods, ∃ ip base, p.isRunning = true ∧ p.ip = some ip ∧
    id = .ofPod s.key p.name ip ∧ PodSource.baseOf p ip d.annotationLead = .ok base

/-- The pod of an identity was described, as an endpoint. -/
def Finds (d : Discoverer) (l : Look) (s : PodSource) (id : EndpointId) (e : Endpoint) : Prop :=
  ∃ findings, (d.survey l.world l.began s).outcome = .ok findings ∧ ⟨id, .ok e⟩ ∈ findings

/-- The pod of an identity is there and can be used, but could not be asked. -/
def Misses (d : Discoverer) (l : Look) (s : PodSource) (id : EndpointId) : Prop :=
  d.Shows l s id ∧ ∃ findings, (d.survey l.world l.began s).outcome = .ok findings ∧
    ∃ cause, ⟨id, .error cause⟩ ∈ findings

/-- Pods are called and addressed without slashes. -/
def SlashFree (d : Discoverer) (l : Look) : Prop :=
  ∀ s ∈ d.sources, ∀ pods, l.listed s = .ok pods → ∀ q ∈ addressed pods,
    '/' ∉ q.1.name.toList ∧ '/' ∉ q.2.toList

/-- What is promised of a look: pods are called and addressed without slashes, and no two pods
of a listing have one identity. -/
structure Proper (d : Discoverer) (l : Look) : Prop where
  plain : d.SlashFree l
  distinct : ∀ s ∈ d.sources, ∀ pods, l.listed s = .ok pods →
    ((addressed pods).map fun q => EndpointId.ofPod s.key q.1.name q.2).Nodup

/-- What a look at a source says of an identity. -/
def verdict (d : Discoverer) (l : Look) (s : PodSource) (id : EndpointId) : Verdict :=
  match (d.survey l.world l.began s).outcome with
  | .ok findings => verdictOf findings id
  | .error _ => .unseen

variable {d : Discoverer} {l : Look} {s : PodSource} {id : EndpointId} {e : Endpoint}
  {pods : List Pod} {findings : List Finding}

theorem survey_source (w : World) (now : Nat) (s : PodSource) :
    (d.survey w now s).source = s := by
  unfold survey
  cases h : (w.list s now).outcome <;> simp only [h]

theorem survey_failed {cause : DiscoveryError} (h : l.listed s = .error cause) :
    (d.survey l.world l.began s).outcome = .error cause := by
  unfold Look.listed at h
  simp only [survey, h]

/-- The occasions on which a source asks its pods, by the starts of their descriptions. -/
def occasions (s : PodSource) (starts : List Nat) : List Occasion :=
  starts.mapIdx fun place start => { instant := start, place, source := s.key }

theorem length_occasions (s : PodSource) (starts : List Nat) :
    (occasions s starts).length = starts.length := List.length_mapIdx

theorem instants_occasions (s : PodSource) (starts : List Nat) :
    (occasions s starts).map (·.instant) = starts := by
  refine List.ext_getElem (by simp [occasions]) fun i _ _ => ?_
  simp [occasions]

/-- Every pod that runs with an address is described, in their order and each from a start of its
own. -/
theorem describeAll_starts (d : Discoverer) (s : PodSource) (pods : List Pod) (net : Network)
    (now : Nat) :
    ∃ starts, starts.length = (addressed pods).length ∧ (now :: starts).Pairwise (· ≤ ·) ∧
      d.describeAll net s pods now = ((addressed pods).zip (occasions s starts)).map
        fun x => d.describe net s x.1.1 x.1.2 x.2 := by
  let job (place : Nat) (q : Pod × String) (start : Nat) : Described :=
    d.describe net s q.1 q.2 { instant := start, place, source := s.key }
  have hfree : List.replicate windowWidth now ≠ [] := by simp [windowWidth]
  have hnow : ∀ t ∈ List.replicate windowWidth now, t = now := fun t => List.eq_of_mem_replicate
  obtain ⟨starts, hlength, hstarts, hrun⟩ := runInPlaces_starts
    (fun x : Described => x.inquiry.ended) ((addressed pods).mapIdx job) hfree
    (List.pairwise_replicate.mpr (Or.inr (Nat.le_refl now)))
    (fun t ht => Nat.le_of_eq (hnow t ht).symm) (fun t ht => Nat.le_of_eq (hnow t ht))
  have hcount : starts.length = (addressed pods).length := hlength.trans List.length_mapIdx
  refine ⟨starts, hcount, hstarts, ?_⟩
  have hplaces : (((addressed pods).mapIdx job).zip starts).map (fun x => x.1 x.2) =
      ((addressed pods).zip (occasions s starts)).map
        fun x => d.describe net s x.1.1 x.1.2 x.2 := by
    refine List.ext_getElem (by simp [occasions]) fun i _ _ => ?_
    simp [occasions, job]
  rw [← hplaces, ← hrun]
  rfl

/-- A finding tells what came of describing a pod. -/
def Tells (d : Discoverer) (l : Look) (s : PodSource) (q : Pod × String) (f : Finding) : Prop :=
  f.id = .ofPod s.key q.1.name q.2 ∧ ∃ o, f.outcome =
    (s.describe d.annotationLead (probe l.world.network d.probeTimeout) q.1 q.2 o).outcome

/-- The findings are the pods that run with an address, in their order. -/
theorem survey_ok (h : (d.survey l.world l.began s).outcome = .ok findings) :
    ∃ pods, l.listed s = .ok pods ∧ List.Forall₂ (d.Tells l s) (addressed pods) findings := by
  cases hlisted : l.listed s with
  | error cause => simp [survey_failed hlisted] at h
  | ok pods =>
    refine ⟨pods, rfl, ?_⟩
    unfold Look.listed at hlisted
    simp only [survey, hlisted, Except.ok.injEq] at h
    rw [← h]
    obtain ⟨starts, hlength, -, hdescribed⟩ :=
      describeAll_starts d s pods l.world.network (l.world.list s l.began).ended
    rw [hdescribed, List.map_map]
    exact Related.zip_map (hlength.symm.trans (length_occasions s starts).symm)
      fun q o => ⟨rfl, o, rfl⟩

theorem survey_lists :
    (∃ findings, (d.survey l.world l.began s).outcome = .ok findings) ↔ l.lists s = true := by
  unfold Look.lists
  cases hlisted : l.listed s with
  | error cause => simp [survey_failed hlisted, Except.isOk, Except.toBool]
  | ok pods =>
    unfold Look.listed at hlisted
    simp only [survey, hlisted, Except.isOk, Except.toBool, iff_true]
    exact ⟨_, rfl⟩

/-- The pod that a finding tells of. -/
theorem pod_of_finding (h : (d.survey l.world l.began s).outcome = .ok findings) {f : Finding}
    (hf : f ∈ findings) :
    ∃ pods, l.listed s = .ok pods ∧ ∃ q ∈ addressed pods, d.Tells l s q f := by
  obtain ⟨pods, hlisted, htells⟩ := survey_ok h
  exact ⟨pods, hlisted, Related.mem_right htells hf⟩

/-- The findings of a look without slashes are its source's own. -/
theorem survey_owned (hplain : d.SlashFree l) (hs : s ∈ d.sources)
    (h : (d.survey l.world l.began s).outcome = .ok findings) : Owned s.key findings where
  named := by
    intro f hf
    obtain ⟨pods, hlisted, q, hq, hid, -⟩ := pod_of_finding h hf
    obtain ⟨hname, hip⟩ := hplain s hs pods hlisted q hq
    exact ⟨q.1.name, q.2, hname, hip, hid⟩
  own := by
    intro f hf e hout
    obtain ⟨pods, -, q, -, hid, o, htold⟩ := pod_of_finding h hf
    rw [htold] at hout
    rw [hid]
    exact PodSource.describe_ok (probe_forgivable l.world.network d.probeTimeout) hout

/-- The findings of a proper look fit their source. -/
theorem survey_fitting (hproper : d.Proper l) (hs : s ∈ d.sources)
    (h : (d.survey l.world l.began s).outcome = .ok findings) : Fitting s.key findings where
  toOwned := survey_owned hproper.plain hs h
  ids := by
    obtain ⟨pods, hlisted, htells⟩ := survey_ok h
    rw [Related.map_eq (htells.imp fun _ _ hq => hq.1)]
    exact hproper.distinct s hs pods hlisted

/-- The annotations of a pod can be used unless the finding says otherwise. -/
theorem Tells.usable_iff {q : Pod × String} {f : Finding} (h : d.Tells l s q f) :
    (∃ base, PodSource.baseOf q.1 q.2 d.annotationLead = .ok base) ↔
      ∀ fault, f.outcome ≠ .error (.unusable fault) := by
  obtain ⟨-, o, htold⟩ := h
  cases hbase : PodSource.baseOf q.1 q.2 d.annotationLead with
  | error fault => simp [htold, PodSource.describe_unusable hbase]
  | ok base =>
    rcases s.describe_usable o hbase
      (probe_forgivable l.world.network d.probeTimeout) with ⟨x, hx, -⟩ | ⟨cause, hc, hforgiven⟩
    · simp [htold, hx]
    · simpa [htold, hc] using hforgiven

end Discoverer

/-! ### What a look says of an identity -/

theorem Finding.verdict_found {f : Finding} {e : Endpoint} :
    f.verdict = .found e ↔ f.outcome = .ok e := by
  unfold verdict
  split
  · next d h => simp [h]
  · next fault h => simp [h]
  · next cause _ h => simp [h]

theorem Finding.verdict_missed {f : Finding} :
    f.verdict = .missed ↔ (∃ cause, f.outcome = .error cause) ∧
      ∀ fault, f.outcome ≠ .error (.unusable fault) := by
  unfold verdict
  split
  · next d h => simp [h]
  · next fault h => simp [h]
  · next cause hfault h =>
    refine iff_of_true rfl ⟨⟨cause, h⟩, fun fault hc => hfault fault ?_⟩
    exact Except.error.inj (h.symm.trans hc)

theorem verdictOf_eq_iff {findings : List Finding} {id : EndpointId} {v : Verdict}
    (hids : (findings.map (·.id)).Nodup) (hv : v ≠ .absent) :
    verdictOf findings id = v ↔ ∃ f ∈ findings, f.id = id ∧ f.verdict = v := by
  unfold verdictOf
  constructor
  · intro h
    cases hfind : findings.find? (·.id == id) with
    | none => simp [hfind, Ne.symm hv] at h
    | some f =>
      refine ⟨f, List.mem_of_find?_eq_some hfind, by simpa using List.find?_some hfind, ?_⟩
      simpa [hfind] using h
  · intro h
    obtain ⟨f, hf, rfl, hverdict⟩ := h
    rw [Keyed.find?_of_mem hids hf, Option.map_some, Option.getD_some, hverdict]

namespace Discoverer

variable {d : Discoverer} {l : Look} {s : PodSource} {id : EndpointId} {e : Endpoint}

theorem verdict_unseen (hproper : d.Proper l) (hs : s ∈ d.sources) :
    d.verdict l s id = .unseen ↔ l.lists s = false := by
  rw [Bool.eq_false_iff, Ne, ← survey_lists (d := d), verdict]
  cases hout : (d.survey l.world l.began s).outcome with
  | error cause => simp
  | ok findings =>
    have hids := (survey_fitting hproper hs hout).ids
    refine iff_of_false (fun h => ?_) (fun h => h ⟨findings, rfl⟩)
    obtain ⟨f, -, -, hverdict⟩ := (verdictOf_eq_iff hids (v := .unseen) (by simp)).mp h
    unfold Finding.verdict at hverdict
    split at hverdict <;> cases hverdict

theorem verdict_found (hproper : d.Proper l) (hs : s ∈ d.sources) :
    d.verdict l s id = .found e ↔ d.Finds l s id e := by
  unfold verdict Finds
  cases hout : (d.survey l.world l.began s).outcome with
  | error cause => simp
  | ok findings =>
    have hids := (survey_fitting hproper hs hout).ids
    simp only [Except.ok.injEq, exists_eq_left']
    rw [verdictOf_eq_iff hids (by simp)]
    constructor
    · intro h
      obtain ⟨f, hf, hid, hverdict⟩ := h
      rw [← hid, ← Finding.verdict_found.mp hverdict]
      exact hf
    · intro h
      exact ⟨_, h, rfl, rfl⟩

theorem Finds.shows (h : d.Finds l s id e) : d.Shows l s id := by
  obtain ⟨findings, hout, hf⟩ := h
  obtain ⟨pods, hlisted, q, hq, htells⟩ := pod_of_finding hout hf
  obtain ⟨hmem, hruns, hip⟩ := mem_addressed.mp hq
  obtain ⟨base, hbase⟩ := htells.usable_iff.mpr nofun
  exact ⟨pods, hlisted, q.1, hmem, q.2, base, hruns, hip, htells.1, hbase⟩

theorem verdict_missed (hproper : d.Proper l) (hs : s ∈ d.sources) :
    d.verdict l s id = .missed ↔ d.Misses l s id := by
  unfold verdict Misses
  cases hout : (d.survey l.world l.began s).outcome with
  | error cause => simp
  | ok findings =>
    have hids := (survey_fitting hproper hs hout).ids
    simp only [Except.ok.injEq, exists_eq_left']
    rw [verdictOf_eq_iff hids (by simp)]
    constructor
    · intro h
      obtain ⟨f, hf, rfl, hverdict⟩ := h
      obtain ⟨⟨cause, hcause⟩, hforgiven⟩ := Finding.verdict_missed.mp hverdict
      obtain ⟨pods, hlisted, q, hq, htells⟩ := pod_of_finding hout hf
      obtain ⟨hmem, hruns, hip⟩ := mem_addressed.mp hq
      obtain ⟨base, hbase⟩ := htells.usable_iff.mpr hforgiven
      refine ⟨⟨pods, hlisted, q.1, hmem, q.2, base, hruns, hip, htells.1, hbase⟩, cause, ?_⟩
      rw [← hcause]
      exact hf
    · intro h
      obtain ⟨⟨pods, hlisted, p, hp, ip, base, hruns, hip, hid, hbase⟩, cause, hf⟩ := h
      refine ⟨_, hf, rfl, Finding.verdict_missed.mpr ⟨⟨cause, rfl⟩, ?_⟩⟩
      -- the finding tells of this very pod, since no other has its identity
      obtain ⟨pods', hlisted', q, hq, htells⟩ := pod_of_finding hout hf
      have hpods : pods' = pods := Except.ok.inj (hlisted'.symm.trans hlisted)
      rw [hpods] at hq
      have hsame : q = (p, ip) := List.inj_on_of_nodup_map (hproper.distinct s hs pods hlisted) hq
        (mem_addressed.mpr ⟨hp, hruns, hip⟩) (htells.1.symm.trans hid)
      exact htells.usable_iff.mp ⟨base, by rw [hsame]; exact hbase⟩

end Discoverer

end ModelGateway

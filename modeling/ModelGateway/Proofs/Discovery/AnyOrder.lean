/-
Sources in any order.

Sources are looked at side by side, and which is done first is left to chance.  A source
reads and writes its own identities and its own failures only, so taking it in comes to what
it would come to if it were alone, whatever was taken in before.  What is known at the end can
then be told source by source from what was known at the beginning, and the order is not in it.
All that tells orders apart is where endpoints stand that are new: the ones that were there
keep theirs.
-/
import ModelGateway.Proofs.Discovery.Coexistence
import ModelGateway.Proofs.Registry.Parts

namespace ModelGateway

namespace Known

variable {k k' : Known} {limit : Nat} {source other : SourceKey} {findings : List Finding}
  {f : Finding} {id : EndpointId}

/-- What every source keeps true of what is known. -/
structure Kept (k : Known) : Prop where
  sound : k.registry.Sound
  attributed : k.Attributed

/-- Two states of knowledge are the same as far as a source is concerned. -/
structure AgreeOn (source : SourceKey) (k k' : Known) : Prop where
  registry : k.registry.SameOn (EndpointId.OfSource source) k'.registry
  failures : ∀ id, k.failureCount source id = k'.failureCount source id

theorem AgreeOn.weigh (h : AgreeOn source k k') (hf : f.id.OfSource source) :
    k.weigh limit source f = k'.weigh limit source f := by
  unfold Known.weigh
  rw [h.failures, h.registry f.id hf]

/-- What a source contributed goes by its own identities. -/
theorem Kept.own (hk : k.Kept) :
    ∀ e ∈ k.registry.endpoints, e.source = .discovered source → e.id.OfSource source :=
  fun e he hsource => (hk.attributed e he source hsource).1

theorem commit_kept (hk : k.Kept) (hown : Owned source findings) :
    (k.commit limit source findings).1.Kept :=
  ⟨Registry.reconcile_sound hk.sound, commit_attributed hk.attributed hown⟩

/-- Bringing a source up to date depends on the source's part of what is known, and on nothing
else. -/
theorem AgreeOn.commit (h : AgreeOn source k k') (hk : k.Kept) (hk' : k'.Kept)
    (hown : Owned source findings) :
    (k.commit limit source findings).2 = (k'.commit limit source findings).2 ∧
      AgreeOn source (k.commit limit source findings).1 (k'.commit limit source findings).1 := by
  have hweighed : findings.map (k.weigh limit source) = findings.map (k'.weigh limit source) :=
    List.map_congr_left fun f hf => h.weigh (hown.named f hf)
  have hlapses : findings.filterMap (k.lapse limit source) =
      findings.filterMap (k'.lapse limit source) :=
    List.filterMap_congr fun f hf => congrArg Prod.snd (h.weigh (hown.named f hf))
  have haccepted : ∀ e ∈ Registry.accepted source ((findings.map (k.weigh limit source)).filterMap
      (·.1)), e.id.OfSource source := fun e he => (accepted_ofSource hown e he).1
  obtain ⟨hsummary, hregistry⟩ :=
    h.registry.reconcile hk.sound hk.own haccepted hk'.sound hk'.own
  refine ⟨?_, ?_, fun id => ?_⟩
  · rw [Known.commit, Known.commit, ← hweighed]
    exact hsummary
  · rw [Known.commit, Known.commit, ← hweighed]
    exact hregistry
  · rw [commit_failureCount_eq, commit_failureCount_eq, hlapses]

/-- Bringing a source up to date leaves what is not its own. -/
theorem get?_commit_apart (hk : k.Kept) (hown : Owned source findings) (hid : ¬ id.OfSource source) :
    (k.commit limit source findings).1.registry.get? id = k.registry.get? id :=
  hk.sound.get?_reconcile_apart hk.own (fun e he => (accepted_ofSource hown e he).1) hid

end Known

/-- What a survey found is its source's own. -/
def Survey.Own (x : Survey) : Prop :=
  ∀ findings, x.outcome = .ok findings → Owned x.source.key findings

namespace Discoverer

variable {d : Discoverer} {k k' start : Known} {l : Look} {x : Survey} {id : EndpointId}
  {arrivals other : List (Dated Survey)} {source : SourceKey}

/-! ### One source -/

theorem take_kept (hk : k.Kept) (hx : x.Own) : (d.take k x).1.Kept := by
  unfold take
  cases hout : x.outcome with
  | error e => exact hk
  | ok findings => exact Known.commit_kept hk (hx findings hout)

/-- What a source is said to have come to, and its part of what is known, depend on its part of
what was known. -/
theorem take_agree (hk : k.Kept) (hk' : k'.Kept) (hx : x.Own)
    (h : Known.AgreeOn x.source.key k k') :
    (d.take k x).2 = (d.take k' x).2 ∧
      Known.AgreeOn x.source.key (d.take k x).1 (d.take k' x).1 := by
  unfold take
  cases hout : x.outcome with
  | error e => exact ⟨rfl, h⟩
  | ok findings =>
    obtain ⟨hsummary, hagree⟩ := h.commit hk hk' (hx findings hout)
    exact ⟨congrArg (fun s => Report.mk x.source (.ok s)) hsummary, hagree⟩

theorem get?_take_apart (hk : k.Kept) (hx : x.Own) (hid : ¬ id.OfSource x.source.key) :
    (d.take k x).1.registry.get? id = k.registry.get? id := by
  unfold take
  cases hout : x.outcome with
  | error e => rfl
  | ok findings => exact Known.get?_commit_apart hk (hx findings hout) hid

theorem failureCount_take_apart (hne : x.source.key ≠ source) (id : EndpointId) :
    (d.take k x).1.failureCount source id = k.failureCount source id := by
  unfold take
  cases hout : x.outcome with
  | error e => rfl
  | ok findings => exact Known.commit_failureCount_other hne id

/-- A source that still has what it had adds nothing old at the end. -/
theorem take_follows {old : List EndpointId} (hx : x.Own) (h : k.registry.Follows old)
    (hold : ∀ id, id.OfSource x.source.key → id ∈ old → (k.registry.get? id).isSome = true) :
    (d.take k x).1.registry.Follows old := by
  unfold take
  cases hout : x.outcome with
  | error e => exact h
  | ok findings =>
    exact h.reconcile fun e he => hold e.id (Known.accepted_ofSource (hx findings hout) e he).1

/-! ### One after the other -/

/-- What is known after some sources, told from what was known before all of them. -/
structure Settled (d : Discoverer) (start : Known) (arrivals : List (Dated Survey)) (k : Known) :
    Prop where
  kept : k.Kept
  /-- Each source's part is what the source alone would have made of it. -/
  own : ∀ x ∈ arrivals, Known.AgreeOn x.value.source.key (d.take start x.value).1 k
  apart : ∀ id, (∀ x ∈ arrivals, ¬ id.OfSource x.value.source.key) →
    k.registry.get? id = start.registry.get? id
  quiet : ∀ source, (∀ x ∈ arrivals, x.value.source.key ≠ source) →
    ∀ id, k.failureCount source id = start.failureCount source id
  follows : k.registry.Follows (start.registry.endpoints.map (·.id))

theorem settled_start (hstart : start.Kept) : Settled d start [] start :=
  ⟨hstart, by simp, fun _ _ => rfl, fun _ _ _ => rfl, Registry.follows_self _⟩

/-- A source that is not among them finds its part as it was. -/
theorem Settled.agree (h : Settled d start arrivals k)
    (hnew : ∀ y ∈ arrivals, y.value.source.key ≠ source) : Known.AgreeOn source start k where
  registry := fun id hid => (h.apart id fun y hy hother => hnew y hy (hother.unique hid)).symm
  failures := fun id => (h.quiet source hnew id).symm

/-- The next source comes to what it would have come to alone. -/
theorem Settled.step (h : Settled d start arrivals k) (hstart : start.Kept) {x : Dated Survey}
    (hx : x.value.Own)
    (hnew : ∀ y ∈ arrivals, y.value.source.key ≠ x.value.source.key) :
    (d.take k x.value).2 = (d.take start x.value).2 ∧
      Settled d start (arrivals ++ [x]) (d.take k x.value).1 := by
  have hagree : Known.AgreeOn x.value.source.key start k := h.agree hnew
  obtain ⟨hreport, hown⟩ := take_agree (d := d) hstart h.kept hx hagree
  refine ⟨hreport.symm, take_kept h.kept hx, fun y hy => ?_, fun id hid => ?_, fun source hne id => ?_,
    take_follows hx h.follows fun id hid hold => ?_⟩
  · rcases List.mem_append.mp hy with hy | hy
    · have hy' := h.own y hy
      have hother := hnew y hy
      refine ⟨fun id hid => ?_, fun id => ?_⟩
      · rw [hy'.registry id hid, get?_take_apart h.kept hx fun hmine => hother (hid.unique hmine)]
      · rw [hy'.failures, failureCount_take_apart (Ne.symm hother)]
    · rw [List.mem_singleton.mp hy]
      exact hown
  · rw [get?_take_apart h.kept hx (hid x (by simp))]
    exact h.apart id fun y hy => hid y (by simp [hy])
  · rw [failureCount_take_apart (hne x (by simp))]
    exact h.quiet source (fun y hy => hne y (by simp [hy])) id
  · obtain ⟨e, he, rfl⟩ := List.mem_map.mp hold
    rw [← hagree.registry e.id hid, hstart.sound.get?_eq_some.mpr ⟨he, rfl⟩]
    rfl

theorem takeAll_concat (k : Known) (arrivals : List (Dated Survey)) (x : Dated Survey) :
    d.takeAll k (arrivals ++ [x]) = d.takeAll k arrivals ++
      [{ x with value := d.take (arrivals.foldl (fun k x => (d.take k x.value).1) k) x.value }] := by
  induction arrivals generalizing k with
  | nil => rfl
  | cons y rest ih => rw [List.cons_append, takeAll, takeAll, ih]; rfl

/-- In whichever order sources come, each comes to what it would have come to alone. -/
theorem settled_after (hstart : start.Kept) (hown : ∀ x ∈ arrivals, x.value.Own)
    (hkeys : (arrivals.map (·.value.source.key)).Nodup) :
    (d.takeAll start arrivals).map (fun s => (s.place, s.value.2)) =
        arrivals.map (fun x => (x.place, (d.take start x.value).2)) ∧
      Settled d start arrivals (arrivals.foldl (fun k x => (d.take k x.value).1) start) := by
  induction arrivals using List.reverseRecOn with
  | nil => exact ⟨rfl, settled_start hstart⟩
  | append_singleton arrivals x ih =>
    rw [List.map_append, List.nodup_append] at hkeys
    obtain ⟨hkeys, -, hnew⟩ := hkeys
    obtain ⟨hreports, hsettled⟩ := ih (fun y hy => hown y (by simp [hy])) hkeys
    obtain ⟨hreport, hstep⟩ := hsettled.step hstart (hown x (by simp)) fun y hy =>
      hnew _ (List.mem_map_of_mem hy) _ (by simp)
    rw [takeAll_concat, List.map_append, List.map_append, hreports, List.foldl_append]
    refine ⟨?_, hstep⟩
    simp [hreport]

/-! ### Two orders -/

/-- What is known at the end does not depend on the order, but for where new endpoints are. -/
theorem Settled.same (h : Settled d start arrivals k) (h' : Settled d start other k')
    (hperm : arrivals.Perm other) :
    (∀ id, k.registry.get? id = k'.registry.get? id) ∧
      ∀ source id, k.failureCount source id = k'.failureCount source id := by
  constructor
  · intro id
    by_cases hmine : ∃ x ∈ arrivals, id.OfSource x.value.source.key
    · obtain ⟨x, hx, hid⟩ := hmine
      rw [← (h.own x hx).registry id hid, (h'.own x (hperm.mem_iff.mp hx)).registry id hid]
    · have hnone : ∀ x ∈ arrivals, ¬ id.OfSource x.value.source.key := fun x hx hid =>
        hmine ⟨x, hx, hid⟩
      rw [h.apart id hnone, h'.apart id fun x hx => hnone x (hperm.mem_iff.mpr hx)]
  · intro source id
    by_cases hmine : ∃ x ∈ arrivals, x.value.source.key = source
    · obtain ⟨x, hx, rfl⟩ := hmine
      rw [← (h.own x hx).failures, (h'.own x (hperm.mem_iff.mp hx)).failures]
    · have hnone : ∀ x ∈ arrivals, x.value.source.key ≠ source := fun x hx heq =>
        hmine ⟨x, hx, heq⟩
      rw [h.quiet source hnone, h'.quiet source fun x hx => hnone x (hperm.mem_iff.mpr hx)]

/-- Whatever was there before is in front as it is now, in the same order in both. -/
theorem Settled.endpoints (h : Settled d start arrivals k) (h' : Settled d start other k')
    (hsame : ∀ id, k.registry.get? id = k'.registry.get? id) :
    let kept := start.registry.endpoints.filterMap fun e => k'.registry.get? e.id
    ∃ new new', k.registry.endpoints = kept ++ new ∧ k'.registry.endpoints = kept ++ new' ∧
      new.Perm new' ∧ ∀ e ∈ new ++ new', start.registry.get? e.id = none := by
  intro kept
  obtain ⟨new, hnew, hfresh⟩ := h.follows.endpoints h.kept.sound
  obtain ⟨new', hnew', hfresh'⟩ := h'.follows.endpoints h'.kept.sound
  rw [funext hsame, List.filterMap_map] at hnew
  rw [List.filterMap_map] at hnew'
  refine ⟨new, new', hnew, hnew', ?_, fun e he => ?_⟩
  · have hperm := h.kept.sound.endpoints_perm h'.kept.sound hsame
    rw [hnew, hnew'] at hperm
    exact (List.perm_append_left_iff _).mp hperm
  · have hout : e.id ∉ start.registry.endpoints.map (·.id) :=
      (List.mem_append.mp he).elim (hfresh e) (hfresh' e)
    refine Option.eq_none_iff_forall_ne_some.mpr fun x hx => hout ?_
    obtain ⟨hmem, hid⟩ := Registry.get?_id hx
    exact hid ▸ List.mem_map_of_mem hmem

theorem poll_kept (hk : k.Kept) (hplain : d.SlashFree l) {s : PodSource} (hs : s ∈ d.sources) :
    (d.poll l k s).Kept := by
  refine take_kept hk fun findings hout => ?_
  rw [survey_source]
  exact survey_owned hplain hs hout

/-- **Sources come to the same in any order.**  After instances were loaded and any passes went
by, let a pass take its sources in in any order at all, whatever their pods and probes answered.
Then each identity stands for the same endpoint as after the pass in its own order, each model
has the same candidates, each source has the same failures, and each is said to have come to the
same.  What was registered before and still is stands in front, in the order it had; behind it
are the new endpoints, and only these may change places. -/
theorem comes_to_the_same_in_any_order (d : Discoverer)
    (hkeys : (d.sources.map PodSource.key).Nodup) (settings : List InstanceSettings) (count : Nat)
    (registry : Registry) (hload : registerInstances settings {} = .ok (count, registry))
    (looks : List Look) (last : Look) (hplain : ∀ l ∈ looks ++ [last], d.SlashFree l)
    (arrivals : List (Dated Survey)) (harrivals : arrivals.Perm (d.done last)) :
    let before := d.knownAfter { registry } looks
    let pass := d.pass last.world before last.began
    let known := pass.known before
    let stages := d.takeAll before arrivals
    let known' := (stages.getLast?.map (·.value.1)).getD before
    (∀ id, known'.registry.get? id = known.registry.get? id) ∧
      (∀ m, (known'.registry.serving m).Perm (known.registry.serving m)) ∧
      (∀ source id, known'.failureCount source id = known.failureCount source id) ∧
      (stages.map fun s => (s.place, s.value.2)).Perm
        (pass.stages.map fun s => (s.place, s.value.2)) ∧
      let kept := before.registry.endpoints.filterMap fun e => known.registry.get? e.id
      ∃ new' new, known'.registry.endpoints = kept ++ new' ∧ known.registry.endpoints = kept ++ new ∧
        new'.Perm new ∧ ∀ e ∈ new' ++ new, before.registry.get? e.id = none := by
  intro before pass known stages known'
  have hstart : ({ registry } : Known).Kept :=
    ⟨(start_beside hload).sound, (start_beside hload).attributed⟩
  have hbefore : before.Kept :=
    knownAfter_induction hstart fun l hl _ hk _ ht => poll_kept hk (hplain l (by simp [hl])) ht
  have hown : ∀ x ∈ d.done last, x.value.Own := by
    intro x hx findings hout
    rw [value_of_done hx] at hout
    exact survey_owned (hplain last (by simp))
      ((order_perm d last).mem_iff.mp (List.mem_map_of_mem hx)) hout
  have hsources : ((d.done last).map (·.value.source.key)).Nodup := by
    have hperm := (order_perm d last).map PodSource.key
    rw [order, List.map_map] at hperm
    exact hperm.nodup_iff.mpr hkeys
  obtain ⟨hreports, hsettled⟩ := settled_after (d := d) hbefore hown hsources
  obtain ⟨hreports', hsettled'⟩ := settled_after (d := d) hbefore
    (fun x hx => hown x (harrivals.mem_iff.mp hx)) ((harrivals.map _).nodup_iff.mpr hsources)
  rw [← takeAll_known] at hsettled hsettled'
  obtain ⟨hget, hfailures⟩ := hsettled'.same hsettled harrivals
  refine ⟨hget, hsettled'.kept.sound.serving_perm hsettled.kept.sound hget, hfailures, ?_,
    hsettled'.endpoints hsettled hget⟩
  show List.Perm _ ((d.takeAll before (d.done last)).map _)
  rw [hreports, hreports']
  exact harrivals.map _

/-- Two sources with a pod each, taken in as they are done or the other way round: every model has
the same candidates. -/
theorem two_sources_in_both_orders :
    let s : PodSource := ⟨"n", "a=b", none, ""⟩
    let t : PodSource := ⟨"n", "c=d", none, ""⟩
    let pod : Pod := { name := "p", space := "n", ip := some "10.0.0.1", phase := "Running" }
    let answers : Network := ⟨fun _ _ =>
      { outcome := .ok (.json ⟨200⟩ "\x7b\"data\":[\x7b\"id\":\"m\"\x7d]\x7d") }⟩
    let look : Look := ⟨⟨answers, fun _ now => ⟨now, .ok [pod]⟩⟩, 0⟩
    let d : Discoverer := ⟨[s, t], 5000, "gateway/", 2⟩
    let known := (d.pass look.world {} look.began).known {}
    let known' := ((d.takeAll {} (d.done look).reverse).getLast?.map (·.value.1)).getD {}
    (d.sources.map PodSource.key).Nodup ∧ registerInstances [] {} = .ok (0, {}) ∧
      (∀ l ∈ [look], d.SlashFree l) ∧ (d.done look).reverse.Perm (d.done look) ∧
      (∀ id, known'.registry.get? id = known.registry.get? id) ∧
      ∀ m, (known'.registry.serving m).Perm (known.registry.serving m) := by
  intro s t pod answers look d known known'
  have hkeys : (d.sources.map PodSource.key).Nodup := by decide
  have hload : registerInstances [] {} = .ok (0, {}) := rfl
  have hplain : ∀ l ∈ [look], d.SlashFree l := by
    intro l hl u _ pods hlisted
    rw [List.mem_singleton.mp hl] at hlisted
    rw [← Except.ok.inj hlisted]
    decide +kernel
  have hperm : (d.done look).reverse.Perm (d.done look) := List.reverse_perm _
  obtain ⟨hget, hserving, -⟩ :=
    comes_to_the_same_in_any_order d hkeys [] 0 {} hload [] look hplain _ hperm
  exact ⟨hkeys, hload, hplain, hperm, hget, hserving⟩

end Discoverer

end ModelGateway

/-
Instances of the settings, and pods, side by side.

They share one registry and one order, and what keeps them apart is identity alone.
Whatever a look at a source stores or removes goes by an identity of that source, which is
neither an instance's nor another source's.  So the instances, stored before the first
pass, stay in front as they are, and sources leave each other's endpoints as they are, in
whatever order they are done and however many passes there are.
-/
import ModelGateway.Proofs.Discovery.Run
import ModelGateway.Proofs.Registry.Instances

namespace ModelGateway

namespace Known

variable {k : Known} {limit : Nat} {source other : SourceKey} {findings : List Finding}
  {instances : List Endpoint}

/-- An endpoint that a source found. -/
def Found (e : Endpoint) : Prop := ∃ source, e.source = .discovered source

/-- Instances are in front as they are, and all behind them was found. -/
structure Beside (instances : List Endpoint) (k : Known) : Prop where
  sound : k.registry.Sound
  attributed : k.Attributed
  begins : k.registry.Begins instances Found

/-! ### Bringing a source up to date -/

/-- What a source no longer finds goes by an identity of that source. -/
theorem stale_ofSource (hk : k.Attributed) {kept : List Endpoint} :
    ∀ id ∈ k.registry.stale source kept, id.OfSource source := by
  intro id hid
  obtain ⟨e, he, hsource, -, rfl⟩ := Registry.mem_stale.mp hid
  exact (hk e he source hsource).1

/-- What is accepted of findings is the source's own, by identity and by source. -/
theorem accepted_ofSource (hown : Owned source findings) :
    ∀ e ∈ Registry.accepted source ((findings.map (k.weigh limit source)).filterMap (·.1)),
      e.id.OfSource source ∧ e.source = .discovered source := by
  intro e he
  refine ⟨?_, (Registry.mem_accepted.mp he).2.1⟩
  rw [commit_accepted] at he
  exact contributions_ofSource hown he

theorem commit_beside (hinstances : ∀ e ∈ instances, ∀ source, ¬ e.id.OfSource source)
    (hk : k.Beside instances) (hown : Owned source findings) :
    (k.commit limit source findings).1.Beside instances where
  sound := Registry.reconcile_sound hk.sound
  attributed := commit_attributed hk.attributed hown
  begins := by
    refine hk.begins.reconcile (EndpointId.OfSource source) (fun e he => hinstances e he source)
      (stale_ofSource hk.attributed) fun e he => ?_
    obtain ⟨hid, hsource⟩ := accepted_ofSource hown e he
    exact ⟨hid, source, hsource⟩

/-- Bringing a source up to date leaves the endpoints of other sources, and their order. -/
theorem commit_others (hk : k.Attributed) (hown : Owned source findings) (hne : other ≠ source) :
    (k.commit limit source findings).1.registry.endpoints.filter (·.source = .discovered other) =
      k.registry.endpoints.filter (·.source = .discovered other) := by
  refine Registry.filter_reconcile (EndpointId.OfSource source) (fun e he hid => ?_)
    (stale_ofSource hk) fun e he => ?_
  · refine decide_eq_false fun hother => hne ?_
    exact (hk e he other hother).1.unique hid
  · obtain ⟨hid, hsource⟩ := accepted_ofSource hown e he
    refine ⟨hid, decide_eq_false fun hother => hne ?_⟩
    exact Source.discovered.inj (hother.symm.trans hsource)

/-! ### What callers see -/

/-- Each instance can be looked up, and is asked before all that was found. -/
theorem Beside.seen (hk : k.Beside instances) :
    (∀ e ∈ instances, k.registry.get? e.id = some e) ∧
      ∀ m, ∃ found, k.registry.serving m = instances.filter (·.serves m) ++ found ∧
        ∀ e ∈ found, Found e := by
  obtain ⟨behind, hendpoints, hfound⟩ := hk.begins
  refine ⟨fun e he => ?_, fun m => ⟨behind.filter (·.serves m), ?_, fun e he => ?_⟩⟩
  · refine hk.sound.get?_eq_some.mpr ⟨?_, rfl⟩
    rw [hendpoints]
    exact List.mem_append_left _ he
  · rw [hk.sound.serving_eq_filter, hendpoints, List.filter_append]
  · exact hfound e (List.mem_of_mem_filter he)

end Known

namespace Discoverer

variable {d : Discoverer} {k : Known} {l : Look} {s : PodSource} {instances : List Endpoint}

theorem poll_beside (hinstances : ∀ e ∈ instances, ∀ source, ¬ e.id.OfSource source)
    (hk : k.Beside instances) (hplain : d.SlashFree l) (hs : s ∈ d.sources) :
    (d.poll l k s).Beside instances := by
  rcases poll_cases d l k s with ⟨cause, -, hpoll⟩ | ⟨findings, hout, hpoll⟩
  · rw [hpoll]
    exact hk
  · rw [hpoll]
    exact Known.commit_beside hinstances hk (survey_owned hplain hs hout)

theorem poll_others {other : SourceKey} (hk : k.Attributed) (hplain : d.SlashFree l)
    (hs : s ∈ d.sources) (hne : other ≠ s.key) :
    (d.poll l k s).registry.endpoints.filter (·.source = .discovered other) =
      k.registry.endpoints.filter (·.source = .discovered other) := by
  rcases poll_cases d l k s with ⟨cause, -, hpoll⟩ | ⟨findings, hout, hpoll⟩
  · rw [hpoll]
  · rw [hpoll]
    exact Known.commit_others hk (survey_owned hplain hs hout) hne

/-- What the settings fill the registry with is in front, with nothing behind. -/
theorem start_beside {settings : List InstanceSettings} {count : Nat} {registry : Registry}
    (hload : registerInstances settings {} = .ok (count, registry)) :
    ({ registry } : Known).Beside registry.endpoints := by
  obtain ⟨hloaded, hsound⟩ := Registry.registerInstances_empty hload
  refine ⟨hsound, fun e he source hsource => ?_, [], by simp, by simp⟩
  rw [(endpointsFrom_own hloaded he).2.1] at hsource
  cases hsource

/-- **Instances stay in front, and sources leave each other alone.**  Instances of the settings
are stored in their order, each under the identity of its index with the models it names.  After
any passes, and after each source of a further one, every instance is registered as it was, and
the endpoints of a model are the instances that serve it, in their order, and behind them what
sources found.  What a source is done with leaves every endpoint of a source with another key as
it was before, and in its place among them. -/
theorem instances_stay_in_front (d : Discoverer) (settings : List InstanceSettings) (count : Nat)
    (registry : Registry) (hload : registerInstances settings {} = .ok (count, registry))
    (looks : List Look) (last : Look) (hplain : ∀ l ∈ looks ++ [last], d.SlashFree l) :
    let before := d.knownAfter { registry } looks
    let stages := (d.pass last.world before last.began).stages
    registry.endpoints.map (fun e => (e.id, e.models, e.source)) =
        settings.zipIdx.map (fun x => (.ofStatic x.2, x.1.modelSet, .settings)) ∧
      (∀ k : Known, k = before ∨ (∃ stage ∈ stages, k = stage.value.1) →
        (∀ e ∈ registry.endpoints, k.registry.get? e.id = some e) ∧
          ∀ m, ∃ found, k.registry.serving m = registry.endpoints.filter (·.serves m) ++ found ∧
            ∀ e ∈ found, ∃ source, e.source = .discovered source) ∧
      ∀ earlier stage later, stages = earlier ++ stage :: later →
        ∀ other, other ≠ stage.value.2.source.key →
          stage.value.1.registry.endpoints.filter (·.source = .discovered other) =
            ((earlier.getLast?.map (·.value.1)).getD before).registry.endpoints.filter
              (·.source = .discovered other) := by
  intro before stages
  obtain ⟨hloaded, -⟩ := Registry.registerInstances_empty hload
  have hinstances : ∀ e ∈ registry.endpoints, ∀ source, ¬ e.id.OfSource source := by
    intro e he source
    obtain ⟨⟨i, hid⟩, -, -⟩ := endpointsFrom_own hloaded he
    rw [hid]
    exact EndpointId.not_ofSource_ofStatic i
  have hlast : d.SlashFree last := hplain last (by simp)
  have hbefore : before.Beside registry.endpoints :=
    knownAfter_induction (start_beside hload) fun l hl _ hk _ ht =>
      poll_beside hinstances hk (hplain l (by simp [hl])) ht
  have hstages : ∀ stage ∈ stages, stage.value.1.Beside registry.endpoints :=
    (pass_induction hbefore fun _ hk _ ht => poll_beside hinstances hk hlast ht).2
  refine ⟨endpointsFrom_told hloaded, fun k hk => ?_, fun earlier stage later hsplit other hne => ?_⟩
  · rcases hk with rfl | ⟨stage, hstage, rfl⟩
    · exact hbefore.seen
    · exact (hstages stage hstage).seen
  · obtain ⟨hs, hpoll⟩ := stage_poll hsplit
    have hearlier : ((earlier.getLast?.map (·.value.1)).getD before).Attributed := by
      cases hlate : earlier.getLast? with
      | none => exact hbefore.attributed
      | some x =>
        have hx : x ∈ stages := by simp [hsplit, List.mem_of_getLast? hlate]
        exact (hstages x hx).attributed
    rw [hpoll]
    exact poll_others hearlier hlast hs hne

/-- One instance and one pod that serve the same model: when the pod was found, the instance is
there as it was, and is asked first. -/
theorem instance_before_pod :
    let s : PodSource := ⟨"n", "a=b", none, ""⟩
    let pod : Pod := { name := "p", space := "n", ip := some "10.0.0.1", phase := "Running" }
    let answers : Network := ⟨fun _ _ =>
      { outcome := .ok (.json ⟨200⟩ "\x7b\"data\":[\x7b\"id\":\"m\"\x7d]\x7d") }⟩
    let look : Look := ⟨⟨answers, fun _ now => ⟨now, .ok [pod]⟩⟩, 0⟩
    let d : Discoverer := ⟨[s], 5000, "gateway/", 2⟩
    let settings : List InstanceSettings := [⟨some "http://10.0.0.9", none, ["m"]⟩]
    let e : Endpoint := ⟨.ofStatic 0,
      ⟨"http", some ⟨"", "", .ipv4 ⟨0x0a000009⟩, none⟩, .segments ["v1"], none, none⟩,
      "", .ofList ["m"], .settings⟩
    let registry : Registry := ⟨[⟨0, e⟩], [⟨"m", [0]⟩], 1⟩
    let known := d.knownAfter { registry } [look]
    registerInstances settings {} = .ok (1, registry) ∧ (∀ l ∈ [look] ++ [look], d.SlashFree l) ∧
      known.registry.get? (.ofStatic 0) = some e ∧ ∃ found, known.registry.serving "m" = e :: found ∧
        ∀ e ∈ found, ∃ source, e.source = .discovered source := by
  intro s pod answers look d settings e registry known
  have hload : registerInstances settings {} = .ok (1, registry) := by decide +kernel
  have hplain : ∀ l ∈ [look] ++ [look], d.SlashFree l := by
    intro l hl t _ pods hlisted
    have hlook : l = look := by simpa using hl
    rw [hlook] at hlisted
    rw [← Except.ok.inj hlisted]
    decide +kernel
  refine ⟨hload, hplain, ?_⟩
  obtain ⟨hkept, hserving⟩ :=
    (instances_stay_in_front d settings 1 registry hload [look] look hplain).2.1 known (Or.inl rfl)
  exact ⟨hkept e (by simp [registry, Registry.endpoints]), hserving "m"⟩

end Discoverer

end ModelGateway

/-
Which pods are registered.

What a run of passes takes an identity through is read from the looks alone.  An endpoint
is registered if its pod was described once and every look since that saw a listing found
the pod there and could not ask it, and this did not happen too often.  A look that saw no
listing neither counts nor changes anything.
-/
import ModelGateway.Proofs.Discovery.Run

namespace ModelGateway.Discoverer

variable {d : Discoverer} {registry : Registry} {looks : List Look} {l : Look} {s : PodSource}
  {id : EndpointId} {e : Endpoint}

/-! ### Before the first pass -/

theorem start_attributed (h : ∀ e ∈ registry.endpoints, e.source = .settings) :
    Known.Attributed { registry } := by
  intro e he source hsource
  rw [h e he] at hsource
  cases hsource

theorem start_standing (h : ∀ e ∈ registry.endpoints, e.source = .settings) (source : SourceKey) :
    ({ registry } : Known).standing source id = {} := by
  have hnone : registry.contributed? source id = none := by
    refine Option.eq_none_iff_forall_ne_some.mpr fun e he => ?_
    obtain ⟨hget, hsource⟩ := Registry.contributed?_eq_some.mp he
    rw [h e (Registry.get?_id hget).1] at hsource
    cases hsource
  rw [Known.standing, hnone]
  rfl

/-! ### Looks that forgive -/

/-- A look that does not count against an identity: if it saw a listing, it missed the pod. -/
theorem verdict_forgiving (hproper : d.Proper l) (hs : s ∈ d.sources) :
    (d.verdict l s id = .unseen ∨ d.verdict l s id = .missed) ↔
      (l.lists s = true → d.Misses l s id) := by
  rw [verdict_unseen hproper hs, verdict_missed hproper hs]
  by_cases h : l.lists s = true
  · simp [h]
  · simp [h]

theorem count_missed {since : List Look} (hproper : ∀ l ∈ since, d.Proper l) (hs : s ∈ d.sources)
    (h : ∀ l ∈ since, l.lists s = true → d.Misses l s id) :
    (since.map (d.verdict · s id)).count .missed = since.countP (·.lists s) := by
  rw [List.count, List.countP_map]
  refine List.countP_congr fun l hl => ?_
  have hlists : d.verdict l s id = .unseen ↔ l.lists s = false :=
    verdict_unseen (hproper l hl) hs
  rcases (verdict_forgiving (hproper l hl) hs).mpr (h l hl) with hv | hv
  · simp [hv, hlists.mp hv]
  · have hl : l.lists s = true := by
      rw [← Bool.not_eq_false, ← hlists, hv]
      simp
    simp [hv, hl]

section History

variable (hkeys : (d.sources.map PodSource.key).Nodup)
  (hstart : ∀ e ∈ registry.endpoints, e.source = .settings)
  (hproper : ∀ l ∈ looks, d.Proper l) (hs : s ∈ d.sources)

include hkeys hstart hproper hs

/-- What is known of an identity after any looks is what the looks say of it. -/
theorem standing_after (id : EndpointId) :
    (d.knownAfter { registry } looks).standing s.key id =
      Standing.after d.maxFailures (looks.map (d.verdict · s id)) := by
  rw [knownAfter_standing hkeys (start_attributed hstart) hproper hs, start_standing hstart]
  rfl

/-- An endpoint is registered exactly if a look found it and all looks since forgave it. -/
theorem contributed_iff :
    (d.knownAfter { registry } looks).registry.contributed? s.key id = some e ↔
      ∃ earlier found since, looks = earlier ++ found :: since ∧ d.Finds found s id e ∧
        (∀ l ∈ since, l.lists s = true → d.Misses l s id) ∧
        (since.countP (·.lists s) = 0 ∨ since.countP (·.lists s) < d.maxFailures) := by
  have hstanding := standing_after hkeys hstart hproper hs id
  have hendpoint : (d.knownAfter { registry } looks).registry.contributed? s.key id =
      (Standing.after d.maxFailures (looks.map (d.verdict · s id))).endpoint := by
    rw [← hstanding]
    rfl
  rw [hendpoint, Standing.after_endpoint_iff]
  constructor
  · intro h
    obtain ⟨before, since, hlooks, hsince, hcount⟩ := h
    obtain ⟨earlier, rest, rfl, -, hrest⟩ := List.map_eq_append_iff.mp hlooks
    obtain ⟨found, since, rfl, hfound, rfl⟩ := List.map_eq_cons_iff.mp hrest
    have hproper' : ∀ l ∈ since, d.Proper l := fun l hl => hproper l (by simp [hl])
    have hforgiven : ∀ l ∈ since, l.lists s = true → d.Misses l s id := fun l hl =>
      (verdict_forgiving (hproper' l hl) hs).mp (hsince _ (List.mem_map_of_mem hl))
    rw [count_missed hproper' hs hforgiven] at hcount
    exact ⟨earlier, found, since, rfl, (verdict_found (hproper found (by simp)) hs).mp hfound,
      hforgiven, hcount⟩
  · intro h
    obtain ⟨earlier, found, since, rfl, hfound, hforgiven, hcount⟩ := h
    have hproper' : ∀ l ∈ since, d.Proper l := fun l hl => hproper l (by simp [hl])
    refine ⟨earlier.map (d.verdict · s id), since.map (d.verdict · s id), ?_, ?_, ?_⟩
    · rw [List.map_append, List.map_cons,
        (verdict_found (hproper found (by simp)) hs).mpr hfound]
    · intro v hv
      obtain ⟨l, hl, rfl⟩ := List.mem_map.mp hv
      exact (verdict_forgiving (hproper' l hl) hs).mpr (hforgiven l hl)
    · rw [count_missed hproper' hs hforgiven]
      exact hcount

/-- After a look that lists the pods of a source, an endpoint is registered exactly if this look
found it, or a look before it did and all since forgave it. -/
theorem contributed_iff_of_listed {last : Look} (hlast : d.Proper last)
    (hlists : last.lists s = true) :
    (d.knownAfter { registry } (looks ++ [last])).registry.contributed? s.key id = some e ↔
      d.Shows last s id ∧ (d.Finds last s id e ∨
        ∃ earlier found since, looks = earlier ++ found :: since ∧ d.Finds found s id e ∧
          (∀ l ∈ since ++ [last], l.lists s = true → d.Misses l s id) ∧
          (since ++ [last]).countP (·.lists s) < d.maxFailures) := by
  have hall : ∀ l ∈ looks ++ [last], d.Proper l := by
    intro l hl
    rcases List.mem_append.mp hl with hl | hl
    · exact hproper l hl
    · exact List.mem_singleton.mp hl ▸ hlast
  rw [contributed_iff hkeys hstart hall hs]
  constructor
  · intro h
    obtain ⟨earlier, found, since, hsplit, hfound, hforgiven, hcount⟩ := h
    rcases List.eq_nil_or_concat since with rfl | ⟨since, l, rfl⟩
    · obtain ⟨-, hsame⟩ := List.append_inj' hsplit rfl
      have hfound := (List.cons.inj hsame).1 ▸ hfound
      exact ⟨hfound.shows, Or.inl hfound⟩
    · rw [List.concat_eq_append] at hsplit hforgiven hcount
      have hsplit' : looks ++ [last] = (earlier ++ found :: since) ++ [l] := by simpa using hsplit
      obtain ⟨hlooks, hl⟩ := List.append_inj' hsplit' rfl
      obtain ⟨rfl, -⟩ := List.cons.inj hl
      -- the last look saw a listing, so it counts
      have hlt : (since ++ [last]).countP (·.lists s) < d.maxFailures := by
        refine hcount.resolve_left ?_
        simp [hlists]
      exact ⟨(hforgiven last (by simp) hlists).1,
        Or.inr ⟨earlier, found, since, hlooks, hfound, hforgiven, hlt⟩⟩
  · intro h
    obtain ⟨-, hfound | ⟨earlier, found, since, rfl, hfound, hforgiven, hlt⟩⟩ := h
    · exact ⟨looks, last, [], rfl, hfound, by simp, Or.inl rfl⟩
    · exact ⟨earlier, found, since ++ [last], by simp, hfound, hforgiven, Or.inr hlt⟩

end History

/-- **What discovery registers.**  Sources have different keys, and nothing is discovered when the
first pass begins.  After a pass that lists the pods of a source, an endpoint is registered under
an identity of that source exactly if its pod is listed, runs with an address and has annotations
that can be used, and either was described as this endpoint in this pass, or was so in an earlier
one and has been there but could not be asked in every listed pass since, less often than the
limit.  A pass that does not list the pods of a source leaves its endpoints and failure counts.
What holds of a source at the end of a pass holds from when the source is done. -/
theorem registers_found_and_forgiven (d : Discoverer) (hkeys : (d.sources.map PodSource.key).Nodup)
    (registry : Registry) (hstart : ∀ e ∈ registry.endpoints, e.source = .settings)
    (looks : List Look) (last : Look) (hproper : ∀ l ∈ looks ++ [last], d.Proper l)
    (s : PodSource) (hs : s ∈ d.sources) :
    let before := d.knownAfter { registry } looks
    let pass := d.pass last.world before last.began
    let now := pass.known before
    (last.lists s = true → ∀ id e, now.registry.contributed? s.key id = some e ↔
      d.Shows last s id ∧ (d.Finds last s id e ∨
        ∃ earlier found since, looks = earlier ++ found :: since ∧ d.Finds found s id e ∧
          (∀ l ∈ since ++ [last], l.lists s = true → d.Misses l s id) ∧
          (since ++ [last]).countP (·.lists s) < d.maxFailures)) ∧
    (last.lists s = false → ∀ id,
      now.registry.contributed? s.key id = before.registry.contributed? s.key id ∧
        now.failureCount s.key id = before.failureCount s.key id) ∧
    ∀ stage ∈ pass.stages, stage.value.2.source = s → ∀ id,
      stage.value.1.registry.contributed? s.key id = now.registry.contributed? s.key id ∧
        stage.value.1.failureCount s.key id = now.failureCount s.key id := by
  intro before pass now
  have hlooks : ∀ l ∈ looks, d.Proper l := fun l hl => hproper l (by simp [hl])
  have hlast : d.Proper last := hproper last (by simp)
  have hattributed : before.Attributed :=
    knownAfter_attributed (start_attributed hstart) hlooks
  have hnow : now = d.knownAfter { registry } (looks ++ [last]) := by
    rw [knownAfter, List.foldl_append]
    rfl
  refine ⟨fun hlists id e => ?_, fun hlists id => ?_, fun stage hstage hsource id => ?_⟩
  · rw [hnow]
    exact contributed_iff_of_listed hkeys hstart hlooks hs hlast hlists
  · have hstep : now.standing s.key id = (before.standing s.key id).next d.maxFailures
        (d.verdict last s id) := pass_standing hkeys hattributed hlast hs
    rw [(verdict_unseen hlast hs).mpr hlists] at hstep
    exact ⟨congrArg Standing.endpoint hstep, congrArg Standing.failures hstep⟩
  · have hsame : stage.value.1.standing stage.value.2.source.key id =
        now.standing stage.value.2.source.key id := stage_standing hkeys hattributed hlast hstage
    rw [hsource] at hsame
    exact ⟨congrArg Standing.endpoint hsame, congrArg Standing.failures hsame⟩

/-- A pod that was described once, and could not be asked when it was listed again, stays. -/
theorem registers_missed_once :
    let s : PodSource := ⟨"n", "a=b", none, ""⟩
    let pod : Pod := { name := "p", space := "n", ip := some "10.0.0.1", phase := "Running" }
    let id : EndpointId := .ofPod s.key "p" "10.0.0.1"
    let base : Url :=
      ⟨"http", some ⟨"", "", .ipv4 ⟨0x0a000001⟩, none⟩, .segments ["v1"], none, none⟩
    let lists : PodSource → Nat → Listing := fun _ now => ⟨now, .ok [pod]⟩
    let answers : Network := ⟨fun _ _ =>
      { outcome := .ok (.json ⟨200⟩ "\x7b\"data\":[\x7b\"id\":\"m\"\x7d]\x7d") }⟩
    let refuses : Network := ⟨fun _ _ => { outcome := .error "refused" }⟩
    let first : Look := ⟨⟨answers, lists⟩, 0⟩
    let second : Look := ⟨⟨answers, fun _ now => ⟨now, .error (.api "down")⟩⟩, 60000⟩
    let third : Look := ⟨⟨refuses, lists⟩, 120000⟩
    let d : Discoverer := ⟨[s], 5000, "gateway/", 2⟩
    let before := d.knownAfter {} [first, second]
    (d.sources.map PodSource.key).Nodup ∧
      (∀ l ∈ [first, second] ++ [third], d.Proper l) ∧
      ((d.pass third.world before third.began).known before).registry.contributed? s.key id =
        some ⟨id, base, "", .ofList ["m"], .discovered s.key⟩ := by
  intro s pod id base lists answers refuses first second third d before
  have hkeys : (d.sources.map PodSource.key).Nodup := by decide
  have hproper : ∀ l ∈ [first, second] ++ [third], d.Proper l := by
    intro l hl
    have hwhich : l = first ∨ l = second ∨ l = third := by simpa using hl
    have hlisted : ∀ t pods, l.listed t = .ok pods → pods = [pod] := by
      intro t pods h
      rcases hwhich with rfl | rfl | rfl
      · exact (Except.ok.inj h).symm
      · cases h
      · exact (Except.ok.inj h).symm
    refine ⟨fun t ht pods h => ?_, fun t ht pods h => ?_⟩
    · rw [hlisted t pods h]
      decide +kernel
    · rw [hlisted t pods h]
      simp [addressed, pod, Pod.address?, Pod.isRunning]
  have hs : s ∈ d.sources := by simp [d]
  have hfound : d.Finds first s id ⟨id, base, "", .ofList ["m"], .discovered s.key⟩ :=
    (verdict_found (hproper first (by simp)) hs).mp (by decide +kernel)
  have hmissed : d.Misses third s id :=
    (verdict_missed (hproper third (by simp)) hs).mp (by decide +kernel)
  have hforgiven : ∀ l ∈ [second] ++ [third], l.lists s = true → d.Misses l s id := by
    intro l hl hlists
    have hwhich : l = second ∨ l = third := by simpa using hl
    rcases hwhich with rfl | rfl
    · cases hlists
    · exact hmissed
  refine ⟨hkeys, hproper, ?_⟩
  refine ((registers_found_and_forgiven d hkeys {} (by simp [Registry.endpoints]) [first, second]
    third hproper s hs).1 rfl id _).mpr ⟨hmissed.1, Or.inr ?_⟩
  exact ⟨[], first, [second], rfl, hfound, hforgiven, by decide⟩

end ModelGateway.Discoverer

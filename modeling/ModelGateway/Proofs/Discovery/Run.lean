/-
Pass after pass.

A pass takes its sources in in the order they are done, which is any order.  A source
moves only its own identities, so whatever the order is, a pass takes every identity one
look further, and a run of passes takes it through all looks.  What an identity goes
through is then read in terms of what the looks showed.
-/
import ModelGateway.Proofs.Discovery.Survey

namespace ModelGateway.Discoverer

variable {d : Discoverer} {k : Known} {l : Look} {s t : PodSource} {id : EndpointId}
  {e : Endpoint}

/-! ### One source -/

/-- What is known after one source was looked at. -/
def poll (d : Discoverer) (l : Look) (k : Known) (s : PodSource) : Known :=
  (d.take k (d.survey l.world l.began s)).1

/-- A source whose listing fails changes nothing, any other brings its findings in. -/
theorem poll_cases (d : Discoverer) (l : Look) (k : Known) (s : PodSource) :
    (∃ cause, (d.survey l.world l.began s).outcome = .error cause ∧ d.poll l k s = k) ∨
      ∃ findings, (d.survey l.world l.began s).outcome = .ok findings ∧
        d.poll l k s = (k.commit d.maxFailures s.key findings).1 := by
  unfold poll take
  cases h : (d.survey l.world l.began s).outcome with
  | error cause => exact Or.inl ⟨cause, rfl, rfl⟩
  | ok findings => exact Or.inr ⟨findings, rfl, by rw [survey_source]⟩

theorem poll_attributed (hk : k.Attributed) (hplain : d.SlashFree l) (hs : s ∈ d.sources) :
    (d.poll l k s).Attributed := by
  rcases poll_cases d l k s with ⟨cause, -, hpoll⟩ | ⟨findings, hout, hpoll⟩
  · rw [hpoll]
    exact hk
  · rw [hpoll]
    exact Known.commit_attributed hk (survey_owned hplain hs hout)

theorem poll_standing (hk : k.Attributed) (hproper : d.Proper l) (hs : s ∈ d.sources) :
    (d.poll l k s).standing s.key id =
      (k.standing s.key id).next d.maxFailures (d.verdict l s id) := by
  unfold verdict
  rcases poll_cases d l k s with ⟨cause, hout, hpoll⟩ | ⟨findings, hout, hpoll⟩
  · rw [hpoll, hout]
    rfl
  · rw [hpoll, hout]
    exact Known.commit_standing hk (survey_fitting hproper hs hout) id

theorem poll_standing_other (hk : k.Attributed) (hproper : d.Proper l) (hs : s ∈ d.sources)
    (hne : s.key ≠ t.key) : (d.poll l k s).standing t.key id = k.standing t.key id := by
  rcases poll_cases d l k s with ⟨cause, -, hpoll⟩ | ⟨findings, hout, hpoll⟩
  · rw [hpoll]
  · rw [hpoll]
    exact Known.commit_standing_other hk (survey_fitting hproper hs hout) hne id

/-! ### Sources in any order -/

/-- What every poll of a look keeps, polls in any order keep. -/
theorem polls_induction {motive : Known → Prop} {order : List PodSource}
    (hsub : ∀ t ∈ order, t ∈ d.sources) (start : motive k)
    (step : ∀ k, motive k → ∀ t ∈ d.sources, motive (d.poll l k t)) :
    motive (order.foldl (d.poll l) k) :=
  List.foldlRecOn _ _ start fun k h t ht => step k h t (hsub t ht)

theorem polls_attributed {order : List PodSource} (hk : k.Attributed) (hplain : d.SlashFree l)
    (hsub : ∀ t ∈ order, t ∈ d.sources) : (order.foldl (d.poll l) k).Attributed :=
  polls_induction hsub hk fun _ h _ ht => poll_attributed h hplain ht

/-- Sources that are others leave an identity as it is. -/
theorem polls_standing_other {order : List PodSource} (hk : k.Attributed) (hproper : d.Proper l)
    (hsub : ∀ t ∈ order, t ∈ d.sources) (hne : ∀ t ∈ order, t.key ≠ s.key) :
    (order.foldl (d.poll l) k).standing s.key id = k.standing s.key id := by
  induction order generalizing k with
  | nil => rfl
  | cons t rest ih =>
    have ht := hsub t (by simp)
    rw [List.foldl_cons, ih (poll_attributed hk hproper.plain ht) (fun u hu => hsub u (by simp [hu]))
      fun u hu => hne u (by simp [hu])]
    exact poll_standing_other hk hproper ht (hne t (by simp))

/-- From when its own source was looked at, an identity is one look further. -/
theorem polls_standing {before behind : List PodSource} (hk : k.Attributed)
    (hproper : d.Proper l) (hsub : ∀ t ∈ before ++ s :: behind, t ∈ d.sources)
    (hkeys : ((before ++ s :: behind).map PodSource.key).Nodup) :
    ((before ++ s :: behind).foldl (d.poll l) k).standing s.key id =
      (k.standing s.key id).next d.maxFailures (d.verdict l s id) := by
  have hs : s ∈ d.sources := hsub s (by simp)
  have hbefore : ∀ t ∈ before, t ∈ d.sources := fun t ht => hsub t (by simp [ht])
  have hbehind : ∀ t ∈ behind, t ∈ d.sources := fun t ht => hsub t (by simp [ht])
  rw [List.map_append, List.map_cons] at hkeys
  obtain ⟨-, hrest, hapart⟩ := List.nodup_append.mp hkeys
  have hkbefore := polls_attributed hk hproper.plain hbefore
  have hks := poll_attributed hkbefore hproper.plain hs
  rw [List.foldl_append, List.foldl_cons, polls_standing_other hks hproper hbehind,
    poll_standing hkbefore hproper hs, polls_standing_other hk hproper hbefore]
  · intro t ht
    exact hapart _ (List.mem_map_of_mem ht) _ List.mem_cons_self
  · intro t ht heq
    exact (List.nodup_cons.mp hrest).1 (heq ▸ List.mem_map_of_mem ht)

/-! ### One pass -/

/-- The surveys of a pass, in the order they are taken in. -/
def done (d : Discoverer) (l : Look) : List (Dated Survey) :=
  ((d.sources.map (d.survey l.world l.began)).mapIdx fun i s => Dated.mk s.ended i s).mergeSort
    fun a b => a.instant ≤ b.instant

/-- The sources in the order they are done. -/
def order (d : Discoverer) (l : Look) : List PodSource := (d.done l).map (·.value.source)

theorem order_perm (d : Discoverer) (l : Look) : (d.order l).Perm d.sources := by
  have hsources : ((d.sources.map (d.survey l.world l.began)).mapIdx fun i s =>
      Dated.mk s.ended i s).map (·.value.source) = d.sources := by
    refine List.ext_getElem (by simp) fun i h _ => ?_
    simp [survey_source]
  have hperm := (List.mergeSort_perm ((d.sources.map (d.survey l.world l.began)).mapIdx
    fun i s => Dated.mk s.ended i s) fun a b => a.instant ≤ b.instant).map (·.value.source)
  rw [hsources] at hperm
  exact hperm

theorem value_of_done {x : Dated Survey} (h : x ∈ d.done l) :
    x.value = d.survey l.world l.began x.value.source := by
  obtain ⟨i, hi, rfl⟩ := List.mem_mapIdx.mp (List.mem_mergeSort.mp h)
  simp [survey_source]

theorem takeAll_known (list : List (Dated Survey)) (k : Known) :
    ((d.takeAll k list).getLast?.map (·.value.1)).getD k =
      list.foldl (fun k x => (d.take k x.value).1) k := by
  induction list generalizing k with
  | nil => rfl
  | cons x rest ih =>
    rw [takeAll, List.getLast?_cons, List.foldl_cons, ← ih]
    cases (d.takeAll (d.take k x.value).1 rest).getLast? <;> rfl

theorem take_source (k : Known) (x : Survey) : (d.take k x).2.source = x.source := by
  unfold take
  split <;> rfl

/-- Every stage takes one survey in, on top of the stages before it. -/
theorem takeAll_split {list : List (Dated Survey)} {k : Known}
    {earlier later : List (Dated (Known × Report))} {stage : Dated (Known × Report)}
    (h : d.takeAll k list = earlier ++ stage :: later) :
    ∃ before x behind, list = before ++ x :: behind ∧ d.takeAll k before = earlier ∧
      stage.value = d.take (before.foldl (fun k x => (d.take k x.value).1) k) x.value := by
  induction list generalizing k earlier with
  | nil => simp [takeAll] at h
  | cons y rest ih =>
    rw [takeAll] at h
    cases earlier with
    | nil =>
      obtain ⟨hstage, -⟩ := List.cons.inj h
      exact ⟨[], y, rest, rfl, rfl, by rw [← hstage]; rfl⟩
    | cons first earlier =>
      obtain ⟨hfirst, hrest⟩ := List.cons.inj h
      obtain ⟨before, x, behind, rfl, htaken, hstage⟩ := ih hrest
      exact ⟨y :: before, x, behind, rfl, by rw [takeAll, htaken, hfirst], hstage⟩

theorem takeAll_stage {list : List (Dated Survey)} {k : Known} {stage : Dated (Known × Report)}
    (h : stage ∈ d.takeAll k list) :
    ∃ before x, before ++ [x] <+: list ∧ stage.value.2.source = x.value.source ∧
      stage.value.1 = (before ++ [x]).foldl (fun k x => (d.take k x.value).1) k := by
  obtain ⟨earlier, later, hsplit⟩ := List.append_of_mem h
  obtain ⟨before, x, behind, rfl, -, hstage⟩ := takeAll_split hsplit
  refine ⟨before, x, ⟨behind, by simp⟩, ?_, ?_⟩
  · rw [hstage, take_source]
  · rw [hstage, List.foldl_append]
    rfl

theorem foldl_take {list : List (Dated Survey)} (hsub : ∀ x ∈ list, x ∈ d.done l) :
    list.foldl (fun k x => (d.take k x.value).1) k =
      (list.map (·.value.source)).foldl (d.poll l) k := by
  rw [List.foldl_map]
  refine List.foldl_ext _ _ _ fun m x hx => ?_
  rw [poll, ← value_of_done (hsub x hx)]

/-- A pass is a poll of every source, in the order they are done. -/
theorem pass_known (d : Discoverer) (l : Look) (k : Known) :
    (d.pass l.world k l.began).known k = (d.order l).foldl (d.poll l) k := by
  rw [order, ← foldl_take fun _ hx => hx]
  exact takeAll_known (d.done l) k

/-- What is known when a source is done, is what the polls up to its own make of it. -/
theorem pass_stage {stage : Dated (Known × Report)}
    (h : stage ∈ (d.pass l.world k l.began).stages) :
    ∃ before, before ++ [stage.value.2.source] <+: d.order l ∧
      stage.value.1 = (before ++ [stage.value.2.source]).foldl (d.poll l) k := by
  have hmem : stage ∈ d.takeAll k (d.done l) := h
  obtain ⟨before, x, hdone, hsource, hknown⟩ := takeAll_stage hmem
  have hmap : (before ++ [x]).map (·.value.source) =
      before.map (·.value.source) ++ [stage.value.2.source] := by
    rw [List.map_append, hsource]
    rfl
  refine ⟨before.map (·.value.source), ?_, ?_⟩
  · rw [← hmap]
    exact hdone.map _
  · rw [← hmap, hknown, foldl_take fun y hy => hdone.subset hy]

/-- A stage is a poll of its source, on top of the stage before it. -/
theorem stage_poll {earlier later : List (Dated (Known × Report))} {stage : Dated (Known × Report)}
    (h : (d.pass l.world k l.began).stages = earlier ++ stage :: later) :
    stage.value.2.source ∈ d.sources ∧
      stage.value.1 = d.poll l ((earlier.getLast?.map (·.value.1)).getD k) stage.value.2.source := by
  have hstages : d.takeAll k (d.done l) = earlier ++ stage :: later := h
  obtain ⟨before, x, behind, hdone, htaken, hstage⟩ := takeAll_split hstages
  have hx : x ∈ d.done l := by simp [hdone]
  have hsource : stage.value.2.source = x.value.source := by rw [hstage, take_source]
  rw [hsource]
  refine ⟨(order_perm d l).mem_iff.mp (List.mem_map_of_mem hx), ?_⟩
  rw [← htaken, takeAll_known, poll, ← value_of_done hx, hstage]

/-- What every poll of a look keeps, the pass that has the look keeps, and every stage of it. -/
theorem pass_induction {motive : Known → Prop} (start : motive k)
    (step : ∀ k, motive k → ∀ t ∈ d.sources, motive (d.poll l k t)) :
    motive ((d.pass l.world k l.began).known k) ∧
      ∀ stage ∈ (d.pass l.world k l.began).stages, motive stage.value.1 := by
  have hsub : ∀ t ∈ d.order l, t ∈ d.sources := fun t ht => (order_perm d l).mem_iff.mp ht
  refine ⟨?_, fun stage hstage => ?_⟩
  · rw [pass_known]
    exact polls_induction hsub start step
  · obtain ⟨before, hfirst, hknown⟩ := pass_stage hstage
    rw [hknown]
    exact polls_induction (fun t ht => hsub t (hfirst.subset ht)) start step

section Pass

variable (hkeys : (d.sources.map PodSource.key).Nodup) (hk : k.Attributed) (hproper : d.Proper l)

include hk hproper in
theorem pass_attributed : ((d.pass l.world k l.began).known k).Attributed :=
  (pass_induction hk fun _ h _ ht => poll_attributed h hproper.plain ht).1

include hkeys hk hproper in
/-- A pass takes every identity of every source one look further. -/
theorem pass_standing (hs : s ∈ d.sources) :
    ((d.pass l.world k l.began).known k).standing s.key id =
      (k.standing s.key id).next d.maxFailures (d.verdict l s id) := by
  obtain ⟨before, behind, horder⟩ := List.append_of_mem ((order_perm d l).mem_iff.mpr hs)
  rw [pass_known, horder]
  refine polls_standing hk hproper (fun t ht => (order_perm d l).mem_iff.mp (horder ▸ ht)) ?_
  rw [← horder]
  exact ((order_perm d l).map _).nodup_iff.mpr hkeys

include hkeys hk hproper in
/-- What is kept of an identity at the end of a pass was kept when its source was done. -/
theorem stage_standing {stage : Dated (Known × Report)}
    (h : stage ∈ (d.pass l.world k l.began).stages) :
    stage.value.1.standing stage.value.2.source.key id =
      ((d.pass l.world k l.began).known k).standing stage.value.2.source.key id := by
  obtain ⟨before, hfirst, hstage⟩ := pass_stage h
  have hsub : ∀ t ∈ before ++ [stage.value.2.source], t ∈ d.sources := fun t ht =>
    (order_perm d l).mem_iff.mp (hfirst.subset ht)
  have hnodup : ((before ++ [stage.value.2.source]).map PodSource.key).Nodup :=
    (((order_perm d l).map PodSource.key).nodup_iff.mpr hkeys).sublist (hfirst.sublist.map _)
  rw [pass_standing hkeys hk hproper (hsub _ (by simp)), hstage]
  exact polls_standing hk hproper hsub hnodup

end Pass

/-! ### Many passes -/

/-- What is known after passes, each of which had a look. -/
def knownAfter (d : Discoverer) (k : Known) (looks : List Look) : Known :=
  looks.foldl (fun k l => (d.pass l.world k l.began).known k) k

/-- Every pass of a run is the pass that has its look, after the passes before it. -/
theorem passes_looks {w : World} {interval horizon count now : Nat} {before behind : List Pass}
    {p : Pass} (h : d.passes w interval horizon count k now = before ++ p :: behind) :
    p = d.pass w (d.knownAfter k (before.map fun q => ⟨w, q.began⟩)) p.began := by
  induction count generalizing k now before with
  | zero => simp [passes] at h
  | succ count ih =>
    unfold passes at h
    split at h
    · simp at h
    · cases before with
      | nil =>
        obtain ⟨hfirst, -⟩ := List.cons.inj h
        rw [← hfirst]
        rfl
      | cons q rest =>
        obtain ⟨hfirst, hrest⟩ := List.cons.inj h
        have hp := ih hrest
        rw [← hfirst]
        exact hp

variable {looks : List Look}

/-- What every poll of every look keeps, a run of passes keeps. -/
theorem knownAfter_induction {motive : Known → Prop} (start : motive k)
    (step : ∀ l ∈ looks, ∀ k, motive k → ∀ t ∈ d.sources, motive (d.poll l k t)) :
    motive (d.knownAfter k looks) :=
  List.foldlRecOn _ _ start fun _ h l hl => (pass_induction h (step l hl)).1

theorem knownAfter_attributed (hk : k.Attributed) (hproper : ∀ l ∈ looks, d.Proper l) :
    (d.knownAfter k looks).Attributed :=
  knownAfter_induction hk fun l hl _ h _ ht => poll_attributed h (hproper l hl).plain ht

/-- A run of passes takes every identity through what its looks say. -/
theorem knownAfter_standing (hkeys : (d.sources.map PodSource.key).Nodup) (hk : k.Attributed)
    (hproper : ∀ l ∈ looks, d.Proper l) (hs : s ∈ d.sources) :
    (d.knownAfter k looks).standing s.key id =
      (looks.map (d.verdict · s id)).foldl (Standing.next d.maxFailures) (k.standing s.key id) := by
  induction looks generalizing k with
  | nil => rfl
  | cons l rest ih =>
    have hl := hproper l (by simp)
    rw [List.map_cons, List.foldl_cons, ← pass_standing hkeys hk hl hs]
    exact ih (pass_attributed hk hl) fun x hx => hproper x (by simp [hx])

end ModelGateway.Discoverer

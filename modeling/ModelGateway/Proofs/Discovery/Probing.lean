/-
Which pods are asked, and that delays tell nothing.

A pod is asked exactly if it runs with an address and its annotations can be used, name no
models and lead to a request that can be built; none of this depends on when it is looked at.
So the requests of a look are told from the listing, and since no pod is begun before the one in
front of it, they are sent in that order.

What comes of a pod depends on what came back for its own request in the time it has from its
own start.  Two looks at one listing may begin their pods at quite different times, as slow
answers hold up the places of others.  But place by place they ask the same, and as long as the
same came back, they find the same.
-/
import ModelGateway.Proofs.Discovery.Survey

namespace ModelGateway.Discoverer

variable {d : Discoverer} {net net' : Network} {s : PodSource} {p : Pod} {ip : String}
  {o o' : Occasion} {w : World} {now : Nat} {pods : List Pod}

/-- The request that asks a pod at an address for its models: its annotations can be used and name
none, and the request can be built. -/
def probeAt? (d : Discoverer) (s : PodSource) (p : Pod) (ip : String) : Option Request :=
  match PodSource.baseOf p ip d.annotationLead with
  | .error _ => none
  | .ok base =>
    let e := s.endpointOf p ip base
    if e.models.isEmpty then (listingRequest e.listingUrl s.credential).toOption else none

/-- The request that asks a listed pod for its models, if it runs with an address. -/
def probeOf? (d : Discoverer) (s : PodSource) (p : Pod) : Option Request :=
  p.address?.bind (d.probeAt? s p)

/-- What came back for a request in the time it has from when it was sent, if anything did. -/
def answerTo (d : Discoverer) (net : Network) (x : Sent) : Option (Except String Response) :=
  ((net.reply x.toOccasion x.request).within d.probeTimeout).2

/-- What came back for the requests that were sent, in their order. -/
def answersTo (d : Discoverer) (net : Network) (sent : List Sent) :
    List (Option (Except String Response)) := sent.map (d.answerTo net)

/-- Pods at their addresses, each described on an occasion of its own. -/
def describedOn (d : Discoverer) (net : Network) (s : PodSource) (list : List (Pod × String))
    (occasions : List Occasion) : List Described :=
  (list.zip occasions).map fun x => d.describe net s x.1.1 x.1.2 x.2

/-- The requests that were sent for pods. -/
def sentFor (list : List Described) : List Sent := list.filterMap (·.inquiry.sent)

/-- What came of pods. -/
def findingsOf (list : List Described) : List Finding := list.map fun x => ⟨x.id, x.inquiry.outcome⟩

/-! ### One pod -/

theorem describe_sent (d : Discoverer) (net : Network) (s : PodSource) (p : Pod) (ip : String)
    (o : Occasion) :
    (d.describe net s p ip o).inquiry.sent = (d.probeAt? s p ip).map (Sent.mk o) := by
  unfold Discoverer.describe PodSource.describe probeAt?
  cases PodSource.baseOf p ip d.annotationLead with
  | error cause => rfl
  | ok base =>
    simp only
    split
    · unfold probe
      cases listingRequest (s.endpointOf p ip base).listingUrl s.credential <;> rfl
    · rfl

/-- What comes of a pod depends on nothing but what came back for its own request. -/
theorem describe_outcome_congr
    (h : (d.describe net s p ip o).inquiry.sent.map (d.answerTo net) =
      (d.describe net' s p ip o').inquiry.sent.map (d.answerTo net')) :
    (d.describe net s p ip o).inquiry.outcome =
      (d.describe net' s p ip o').inquiry.outcome := by
  rw [describe_sent, describe_sent] at h
  unfold Discoverer.describe PodSource.describe
  unfold probeAt? at h
  cases hbase : PodSource.baseOf p ip d.annotationLead with
  | error cause => rfl
  | ok base =>
    simp only [hbase] at h ⊢
    split
    · next hempty =>
      rw [if_pos hempty] at h
      unfold probe
      cases hbuilt : listingRequest (s.endpointOf p ip base).listingUrl s.credential with
      | error reason => rfl
      | ok request =>
        rw [hbuilt] at h
        have hanswer : ((net.reply o request).within d.probeTimeout).2 =
            ((net'.reply o' request).within d.probeTimeout).2 := Option.some.inj h
        simp only [hanswer]
    · rfl

/-! ### Many pods -/

section Many

variable {list : List (Pod × String)} {os os' : List Occasion}

theorem sentFor_describedOn (d : Discoverer) (net : Network) (s : PodSource)
    (list : List (Pod × String)) (os : List Occasion) :
    sentFor (d.describedOn net s list os) = (list.zip os).filterMap fun x =>
      (d.probeAt? s x.1.1 x.1.2).map (Sent.mk x.2) := by
  rw [sentFor, describedOn, List.filterMap_map]
  exact List.filterMap_congr fun x _ => describe_sent d net s x.1.1 x.1.2 x.2

/-- Which requests are sent does not depend on the occasions. -/
theorem requests_describedOn (hlength : os.length = list.length) (net : Network) :
    (sentFor (d.describedOn net s list os)).map (·.request) =
      list.filterMap fun q => d.probeAt? s q.1 q.2 := by
  calc (sentFor (d.describedOn net s list os)).map (·.request)
      = ((list.zip os).map (·.1)).filterMap fun q => d.probeAt? s q.1 q.2 := by
        rw [sentFor_describedOn, List.map_filterMap, List.filterMap_map]
        simp [Option.map_map, Function.comp_def]
    _ = list.filterMap fun q => d.probeAt? s q.1 q.2 := by
        rw [List.map_fst_zip (Nat.le_of_eq hlength.symm)]

/-- Requests are sent in the order of their occasions. -/
theorem instants_describedOn (hlength : os.length = list.length)
    (hascending : (os.map (·.instant)).Pairwise (· ≤ ·)) (net : Network) :
    ((sentFor (d.describedOn net s list os)).map (·.instant)).Pairwise (· ≤ ·) := by
  have hzip : (list.zip os).Pairwise fun x y => x.2.instant ≤ y.2.instant := by
    rw [← List.map_snd_zip (Nat.le_of_eq hlength), List.map_map] at hascending
    exact List.pairwise_map.mp hascending
  rw [sentFor_describedOn, List.pairwise_map, List.pairwise_filterMap]
  refine hzip.imp ?_
  intro x y hxy a ha b hb
  obtain ⟨request, -, rfl⟩ := Option.map_eq_some_iff.mp ha
  obtain ⟨request', -, rfl⟩ := Option.map_eq_some_iff.mp hb
  exact hxy

theorem answersTo_cons (d : Discoverer) (net : Network) (x : Described) (rest : List Described) :
    d.answersTo net (sentFor (x :: rest)) =
      (x.inquiry.sent.map (d.answerTo net)).toList ++ d.answersTo net (sentFor rest) := by
  unfold answersTo sentFor
  cases hsent : x.inquiry.sent with
  | none => rw [List.filterMap_cons_none (by exact hsent)]; rfl
  | some sent => rw [List.filterMap_cons_some (by exact hsent)]; rfl

/-- Pods described on whatever occasions come to the same, if the same came back for each
request. -/
theorem findings_describedOn (hlength : os.length = list.length)
    (hlength' : os'.length = list.length)
    (h : d.answersTo net (sentFor (d.describedOn net s list os)) =
      d.answersTo net' (sentFor (d.describedOn net' s list os'))) :
    findingsOf (d.describedOn net s list os) =
      findingsOf (d.describedOn net' s list os') := by
  induction list generalizing os os' with
  | nil => rfl
  | cons q rest ih =>
    obtain ⟨o, os, rfl⟩ := List.exists_cons_of_length_eq_add_one hlength
    obtain ⟨o', os', rfl⟩ := List.exists_cons_of_length_eq_add_one hlength'
    have hrest := ih (Nat.succ.inj hlength) (Nat.succ.inj hlength')
    let x := d.describe net s q.1 q.2 o
    let x' := d.describe net' s q.1 q.2 o'
    have hsent : x.inquiry.sent = _ := describe_sent d net s q.1 q.2 o
    have hsent' : x'.inquiry.sent = _ := describe_sent d net' s q.1 q.2 o'
    change d.answersTo net (sentFor (x :: d.describedOn net s rest os)) =
      d.answersTo net' (sentFor (x' :: d.describedOn net' s rest os')) at h
    show findingsOf (x :: d.describedOn net s rest os) =
      findingsOf (x' :: d.describedOn net' s rest os')
    -- both ask this pod or neither does, so the answers for the pods behind it are in step again
    suffices hboth : x.inquiry.sent.map (d.answerTo net) = x'.inquiry.sent.map (d.answerTo net') ∧
        d.answersTo net (sentFor (d.describedOn net s rest os)) =
          d.answersTo net' (sentFor (d.describedOn net' s rest os')) by
      have hhead : Finding.mk x.id x.inquiry.outcome = Finding.mk x'.id x'.inquiry.outcome :=
        congrArg (Finding.mk x.id) (describe_outcome_congr hboth.1)
      rw [findingsOf, findingsOf, List.map_cons, List.map_cons, hhead]
      exact congrArg (_ :: ·) (hrest hboth.2)
    rw [answersTo_cons, answersTo_cons, hsent, hsent'] at h
    rw [hsent, hsent']
    cases hprobe : d.probeAt? s q.1 q.2 with
    | none =>
      rw [hprobe] at h
      exact ⟨rfl, h⟩
    | some request =>
      rw [hprobe] at h
      obtain ⟨hhead, htail⟩ := List.cons.inj h
      exact ⟨congrArg some hhead, htail⟩

end Many

/-! ### One look -/

/-- A look that lists its pods describes them from starts that ascend in their order. -/
theorem survey_starts (d : Discoverer) (hlisted : (w.list s now).outcome = .ok pods) :
    ∃ starts, starts.length = (addressed pods).length ∧
      ((w.list s now).ended :: starts).Pairwise (· ≤ ·) ∧
      let described := d.describedOn w.network s (addressed pods) (occasions s starts)
      (d.survey w now s).sent = sentFor described ∧
        (d.survey w now s).outcome = .ok (findingsOf described) := by
  obtain ⟨starts, hlength, hstarts, hdescribed⟩ :=
    describeAll_starts d s pods w.network (w.list s now).ended
  refine ⟨starts, hlength, hstarts, ?_, ?_⟩
  · simp only [survey, hlisted, hdescribed, describedOn, sentFor]
  · simp only [survey, hlisted, hdescribed, describedOn, findingsOf]

/-- **Each pod is asked once, and delays tell nothing.**  A look that lists its pods describes each
that runs with an address from a start of its own, in their order and none before the listing was
there.  It sends one request for each pod that is to be asked, in their order, and none else.
Another look at the same pods, in another world and at another time, leaves the same behind if the
same came back for each request in the time it has from its own start, however long that took. -/
theorem survey_asks_each_once (d : Discoverer) (w : World) (now : Nat) (s : PodSource)
    (pods : List Pod) (hlisted : (w.list s now).outcome = .ok pods) :
    let looked := d.survey w now s
    (∃ starts, starts.length = (addressed pods).length ∧
      ((w.list s now).ended :: starts).Pairwise (· ≤ ·) ∧
      let described := d.describedOn w.network s (addressed pods) (occasions s starts)
      looked.sent = sentFor described ∧ looked.outcome = .ok (findingsOf described)) ∧
    looked.sent.map (·.request) = pods.filterMap (d.probeOf? s) ∧
    (looked.sent.map (·.instant)).Pairwise (· ≤ ·) ∧
    ∀ (w' : World) (now' : Nat), (w'.list s now').outcome = .ok pods →
      let other := d.survey w' now' s
      d.answersTo w.network looked.sent = d.answersTo w'.network other.sent →
        ∀ k, d.take k looked = d.take k other := by
  intro looked
  obtain ⟨starts, hlength, hstarts, hsent, hfound⟩ := survey_starts d hlisted
  have hcount := (length_occasions s starts).trans hlength
  refine ⟨survey_starts d hlisted, ?_, ?_, ?_⟩
  · have hprobes : (addressed pods).filterMap (fun q => d.probeAt? s q.1 q.2) =
        pods.filterMap (d.probeOf? s) := by
      rw [addressed, List.filterMap_filterMap]
      refine List.filterMap_congr fun p _ => ?_
      rw [probeOf?, Option.bind_map]
      rfl
    show (d.survey w now s).sent.map _ = _
    rw [hsent, requests_describedOn hcount, hprobes]
  · show ((d.survey w now s).sent.map _).Pairwise _
    rw [hsent]
    refine instants_describedOn hcount ?_ w.network
    rw [instants_occasions]
    exact (List.pairwise_cons.mp hstarts).2
  · intro w' now' hlisted' other h k
    obtain ⟨starts', hlength', -, hsent', hfound'⟩ := survey_starts d hlisted'
    have hcount' := (length_occasions s starts').trans hlength'
    have hanswers : d.answersTo w.network (d.survey w now s).sent =
        d.answersTo w'.network (d.survey w' now' s).sent := h
    rw [hsent, hsent'] at hanswers
    have houtcome : looked.outcome = other.outcome := by
      rw [hfound.trans (congrArg Except.ok (findings_describedOn hcount hcount' hanswers))]
      exact hfound'.symm
    have hsource : looked.source = other.source :=
      (survey_source w now s).trans (survey_source w' now' s).symm
    unfold take
    rw [houtcome, hsource]

/-- Nine pods run and a tenth does not.  Where the first is slow, the ninth has to wait for its
place and is asked later; what is left behind is the same as where none is. -/
theorem nine_asked_at_any_pace :
    let names := ["a", "b", "c", "d", "e", "f", "g", "h", "i"]
    let running (name : String) : Pod :=
      { name, space := "n", ip := some name, phase := "Running" }
    let pods : List Pod :=
      names.map running ++ [{ name := "j", space := "n", ip := some "j", phase := "Pending" }]
    let s : PodSource := ⟨"n", "a=b", none, ""⟩
    let d : Discoverer := ⟨[s], 5000, "gateway/", 2⟩
    let models : Except String Response :=
      .ok (.json ⟨200⟩ "\x7b\"data\":[\x7b\"id\":\"m\"\x7d]\x7d")
    let lists : PodSource → Nat → Listing := fun _ now => ⟨now, .ok pods⟩
    let slow : World :=
      ⟨⟨fun _ q => { delay := if q.uri.host = "a" then 30 else 0, outcome := models }⟩, lists⟩
    let quick : World := ⟨⟨fun _ _ => { outcome := models }⟩, lists⟩
    (slow.list s 0).outcome = .ok pods ∧
      (d.survey slow 0 s).sent.map (·.instant) = [0, 0, 0, 0, 0, 0, 0, 0, 30] ∧
      ∀ k, d.take k (d.survey slow 0 s) = d.take k (d.survey quick 60000 s) := by
  intro names running pods s d models lists slow quick
  obtain ⟨-, hasked, -, hsame⟩ := survey_asks_each_once d slow 0 s pods rfl
  obtain ⟨-, hasked', -, -⟩ := survey_asks_each_once d quick 60000 s pods rfl
  have hslow : ∀ x, d.answerTo slow.network x = some models := by
    intro x
    by_cases hhost : x.request.uri.host = "a"
    · simp [answerTo, slow, d, Reply.within, hhost]
    · simp [answerTo, slow, d, Reply.within, hhost]
  have hlength : (d.survey slow 0 s).sent.length = (d.survey quick 60000 s).sent.length := by
    have hboth := congrArg List.length (hasked.trans hasked'.symm)
    simpa using hboth
  have hanswers : d.answersTo slow.network (d.survey slow 0 s).sent =
      d.answersTo quick.network (d.survey quick 60000 s).sent := by
    unfold answersTo
    rw [List.map_congr_left fun x _ => hslow x, List.map_const', hlength, ← List.map_const']
    rfl
  exact ⟨rfl, by decide +kernel, hsame quick 60000 rfl hanswers⟩

end ModelGateway.Discoverer

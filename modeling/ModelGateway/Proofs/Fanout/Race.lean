/-
All candidates at once.

The attempts of a race start at one instant, but each on an occasion of its own, so two
candidates may fare differently even where they ask one backend the same.  Which of them
start is decided first: an attempt that succeeds without waiting leaves those behind it
unmade, and nothing else does.  Of the attempts that start, the success that ends first is
kept; only where there is none have all been waited for, and the failure that ends last is
told.

That the candidates left unmade change neither of the two is the point where both meet:
there are any only behind a success at the very instant of the start, and nothing ends
before that.
-/
import ModelGateway.Proofs.Fanout.Sequence

namespace ModelGateway

/-! ### The first and the last to end

Both are folds that keep the better of two attempts, by one test or another.
-/

section Keep

variable {α : Type} {test : α → α → Prop} [DecidableRel test]

/-- Keeping the better of two, time and again, keeps one of all. -/
theorem foldl_keep_mem (a : α) (rest : List α) :
    rest.foldl (fun best b => if test best b then b else best) a ∈ a :: rest := by
  induction rest generalizing a with
  | nil => simp
  | cons b rest ih =>
    have hmem := ih (if test a b then b else a)
    rw [List.foldl_cons]
    rcases List.mem_cons.mp hmem with heq | hrest
    · rw [heq]
      split <;> simp
    · simp [hrest]

/-- What is kept is at least as good as each, where the test tells the better one. -/
theorem foldl_keep_best {r : α → α → Prop} (hrefl : ∀ x, r x x)
    (htrans : ∀ x y z, r x y → r y z → r x z) (hnew : ∀ x y, test x y → r y x)
    (hold : ∀ x y, ¬ test x y → r x y) (a : α) (rest : List α) :
    ∀ b ∈ a :: rest, r (rest.foldl (fun best b => if test best b then b else best) a) b := by
  induction rest generalizing a with
  | nil =>
    intro b hb
    rw [List.mem_singleton.mp hb]
    exact hrefl a
  | cons b rest ih =>
    have hstep : r (if test a b then b else a) a ∧ r (if test a b then b else a) b := by
      by_cases h : test a b
      · rw [if_pos h]
        exact ⟨hnew a b h, hrefl b⟩
      · rw [if_neg h]
        exact ⟨hrefl a, hold a b h⟩
    have hkept := ih (if test a b then b else a)
    have hhead := hkept _ List.mem_cons_self
    intro x hx
    rw [List.foldl_cons]
    rcases List.mem_cons.mp hx with rfl | hx
    · exact htrans _ _ _ hhead hstep.1
    · rcases List.mem_cons.mp hx with rfl | hx
      · exact htrans _ _ _ hhead hstep.2
      · exact hkept x (List.mem_cons_of_mem _ hx)

end Keep

theorem firstToEnd_mem (a : Attempt) (rest : List Attempt) : firstToEnd a rest ∈ a :: rest :=
  foldl_keep_mem a rest

theorem firstToEnd_le (a : Attempt) (rest : List Attempt) :
    ∀ b ∈ a :: rest, (firstToEnd a rest).ended ≤ b.ended :=
  foldl_keep_best (r := fun x y => x.ended ≤ y.ended) (fun _ => Nat.le_refl _)
    (fun _ _ _ => Nat.le_trans) (fun _ _ h => Nat.le_of_lt h) (fun _ _ h => Nat.le_of_not_lt h)
    a rest

theorem lastToEnd_mem (a : Attempt) (rest : List Attempt) : lastToEnd a rest ∈ a :: rest :=
  foldl_keep_mem a rest

theorem le_lastToEnd (a : Attempt) (rest : List Attempt) :
    ∀ b ∈ a :: rest, b.ended ≤ (lastToEnd a rest).ended :=
  foldl_keep_best (r := fun x y => y.ended ≤ x.ended) (fun _ => Nat.le_refl _)
    (fun _ _ _ hxy hyz => Nat.le_trans hyz hxy) (fun _ _ h => h)
    (fun _ _ h => Nat.le_of_lt (Nat.lt_of_not_le h)) a rest

/-! ### Which attempts start -/

/-- Attempts start in order, all of them or those up to the first that wins at once. -/
theorem started_cases (now : Nat) (all : List Attempt) :
    (started now all = all ∧ ∀ a ∈ all, a.wonAt now = false) ∨
      ∃ before winner behind, all = before ++ winner :: behind ∧
        (∀ a ∈ before, a.wonAt now = false) ∧ winner.wonAt now = true ∧
        started now all = before ++ [winner] := by
  induction all with
  | nil => exact Or.inl ⟨rfl, by simp⟩
  | cons a rest ih =>
    cases hwon : a.wonAt now with
    | true =>
      refine Or.inr ⟨[], a, rest, rfl, by simp, hwon, ?_⟩
      rw [started, if_pos hwon]
      rfl
    | false =>
      have hstep : started now (a :: rest) = a :: started now rest := by
        rw [started, if_neg (by simp [hwon])]
      have hfront : ∀ list : List Attempt, (∀ b ∈ list, b.wonAt now = false) →
          ∀ b ∈ a :: list, b.wonAt now = false := by
        intro list hlist b hb
        rcases List.mem_cons.mp hb with rfl | hb
        · exact hwon
        · exact hlist b hb
      rcases ih with ⟨hall, hnone⟩ | ⟨before, winner, behind, hsplit, hbefore, hwins, hstarted⟩
      · exact Or.inl ⟨by rw [hstep, hall], hfront rest hnone⟩
      · refine Or.inr ⟨a :: before, winner, behind, by rw [hsplit]; rfl, hfront before hbefore,
          hwins, ?_⟩
        rw [hstep, hstarted]
        rfl

/-- The first attempt always starts. -/
theorem started_cons (now : Nat) (a : Attempt) (rest : List Attempt) :
    started now (a :: rest) = a :: (started now (a :: rest)).tail := by
  rw [started]
  split <;> rfl

/-! ### The turns of a race -/

theorem exists_lineUp_cons (now : Nat) (e : Endpoint) (rest : List Endpoint) :
    ∃ behind, lineUp now (e :: rest) = ⟨{ instant := now }, e⟩ :: behind :=
  ⟨_, List.mapIdx_cons⟩

theorem lineUp_candidates (now : Nat) (es : List Endpoint) :
    (lineUp now es).map (·.candidate) = es := by
  refine List.ext_getElem (by simp [lineUp]) fun i _ _ => ?_
  simp [lineUp]

/-- Every turn has a place of its own. -/
theorem lineUp_places (now : Nat) (es : List Endpoint) :
    (lineUp now es).map (·.place) = List.range es.length := by
  refine List.ext_getElem (by simp [lineUp]) fun i _ _ => ?_
  simp [lineUp]

theorem instant_of_lineUp {now : Nat} {es : List Endpoint} {t : Turn} (h : t ∈ lineUp now es) :
    t.instant = now := by
  obtain ⟨place, _, rfl⟩ := List.mem_mapIdx.mp h
  rfl

/-! ### Which attempt is kept -/

/-- The attempt that a race keeps. -/
def keptOf (first : Attempt) (begun : List Attempt) : Attempt :=
  match begun.filter (·.outcome.isOk) with
  | a :: others => firstToEnd a others
  | [] => lastToEnd first begun.tail

/-- A race ends with one of its attempts: the first success to end, or where all fail the last
failure to end. -/
theorem race_keeps (attempt : Turn → Attempt) (now : Nat) (e : Endpoint) (rest : List Endpoint) :
    let begun := started now ((lineUp now (e :: rest)).map attempt)
    ∃ kept ∈ begun, race attempt now e rest =
        ⟨begun.filterMap (·.sent), kept.ended, kept.outcome⟩ ∧
      ((kept.outcome.isOk = true ∧ ∀ b ∈ begun, b.outcome.isOk = true → kept.ended ≤ b.ended) ∨
        ((∀ b ∈ begun, b.outcome.isOk = false) ∧ ∀ b ∈ begun, b.ended ≤ kept.ended)) := by
  intro begun
  let first := attempt ⟨{ instant := now }, e⟩
  obtain ⟨behind, hline⟩ := exists_lineUp_cons now e rest
  have hbegun : begun = first :: begun.tail := by
    have hstarted := started_cons now first (behind.map attempt)
    rwa [← List.map_cons, ← hline] at hstarted
  have hmem : ∀ b, b ∈ begun.filter (·.outcome.isOk) ↔ b ∈ begun ∧ b.outcome.isOk = true :=
    fun _ => List.mem_filter
  have hrace : race attempt now e rest = ⟨begun.filterMap (·.sent),
      (keptOf first begun).ended, (keptOf first begun).outcome⟩ := rfl
  rw [hrace]
  cases hok : begun.filter (·.outcome.isOk) with
  | cons a others =>
    have hkeeps : keptOf first begun = firstToEnd a others := by rw [keptOf, hok]
    rw [hkeeps]
    rw [hok] at hmem
    obtain ⟨hkept, hwon⟩ := (hmem _).mp (firstToEnd_mem a others)
    refine ⟨firstToEnd a others, hkept, rfl, Or.inl ⟨hwon, ?_⟩⟩
    intro b hb hbok
    exact firstToEnd_le a others b ((hmem b).mpr ⟨hb, hbok⟩)
  | nil =>
    have hkeeps : keptOf first begun = lastToEnd first begun.tail := by
      rw [keptOf, hok]
    rw [hkeeps]
    have hnone : ∀ b ∈ begun, b.outcome.isOk = false := by
      intro b hb
      simpa using List.filter_eq_nil_iff.mp hok b hb
    refine ⟨lastToEnd first begun.tail, ?_, rfl, Or.inr ⟨hnone, ?_⟩⟩
    · rw [hbegun]
      exact lastToEnd_mem _ _
    · intro b hb
      rw [hbegun] at hb
      exact le_lastToEnd _ _ b hb

namespace Call

variable {c : Call} {net : Network} {limit now : Nat} {t : Turn}

/-- A backend answers a call without a wait. -/
def AnswersAtOnce (c : Call) (net : Network) (limit : Nat) (t : Turn) : Prop :=
  (∃ response, c.Answers net limit t response) ∧ c.wait net limit t = 0

theorem attempt_isOk :
    (c.attempt net limit t).outcome.isOk = true ↔ ∃ response, c.Answers net limit t response := by
  rcases attempt_cases c net limit t with ⟨response, hanswers, hout⟩ | ⟨why, hfails, hout⟩
  · rw [hout]
    exact ⟨fun _ => ⟨response, hanswers⟩, fun _ => rfl⟩
  · rw [hout]
    refine ⟨fun h => absurd h (by simp [Except.isOk, Except.toBool]), fun h => ?_⟩
    obtain ⟨response, hanswers⟩ := h
    exact absurd hfails hanswers.not_fails

theorem attempt_wonAt (hnow : t.instant = now) :
    (c.attempt net limit t).wonAt now = true ↔ c.AnswersAtOnce net limit t := by
  unfold Attempt.wonAt AnswersAtOnce
  rw [Bool.and_eq_true, attempt_isOk, beq_iff_eq, attempt_ended, hnow]
  constructor
  · intro h
    exact ⟨h.2, by omega⟩
  · intro h
    exact ⟨by omega, h.1⟩

/-! ### Which candidates are contacted -/

/-- How a race parts its turns into those that it makes and those that it leaves. -/
structure Contacts (c : Call) (net : Network) (limit : Nat) (turns contacted left : List Turn) :
    Prop where
  parts : turns = contacted ++ left
  /-- Nothing is contacted behind a candidate that answers at once. -/
  stops : ∀ before t behind, turns = before ++ t :: behind →
    c.AnswersAtOnce net limit t → contacted <+: before ++ [t]
  /-- Nothing is left without such a candidate before it. -/
  cause : left ≠ [] → ∃ before t, contacted = before ++ [t] ∧ c.AnswersAtOnce net limit t

variable {turns contacted left : List Turn}

theorem Contacts.at_once_of_left (h : c.Contacts net limit turns contacted left)
    (hleft : left ≠ []) : ∃ t ∈ contacted, c.AnswersAtOnce net limit t := by
  obtain ⟨before, t, hcontacted, hatonce⟩ := h.cause hleft
  exact ⟨t, by simp [hcontacted], hatonce⟩

/-- If no candidate that is contacted answers, all of them are contacted. -/
theorem Contacts.all_of_none (h : c.Contacts net limit turns contacted left)
    (hnone : ∀ t ∈ contacted, ∀ response, ¬ c.Answers net limit t response) :
    turns = contacted := by
  by_cases hleft : left = []
  · rw [h.parts, hleft, List.append_nil]
  · obtain ⟨t, ht, ⟨response, hanswers⟩, -⟩ := h.at_once_of_left hleft
    exact absurd hanswers (hnone t ht response)

/-- The attempts that start are those of the candidates that are contacted. -/
theorem exists_contacts (c : Call) (net : Network) (limit : Nat)
    (hnow : ∀ t ∈ turns, t.instant = now) :
    ∃ contacted left, c.Contacts net limit turns contacted left ∧
      started now (turns.map (c.attempt net limit)) = contacted.map (c.attempt net limit) := by
  have hlost : ∀ {list : List Turn}, (∀ t ∈ list, t.instant = now) →
      (∀ a ∈ list.map (c.attempt net limit), a.wonAt now = false) →
      ∀ t ∈ list, ¬ c.AnswersAtOnce net limit t := by
    intro list hlist hnone t ht hatonce
    have hfalse := hnone _ (List.mem_map_of_mem ht)
    rw [(attempt_wonAt (hlist t ht)).mpr hatonce] at hfalse
    cases hfalse
  rcases started_cases now (turns.map (c.attempt net limit)) with
    ⟨hall, hnone⟩ | ⟨before, winner, behind, hsplit, hbefore, hwins, hstarted⟩
  · refine ⟨turns, [], ⟨by simp, ?_, by simp⟩, hall⟩
    intro before t behind hturns hatonce
    exact absurd hatonce (hlost hnow hnone t (by simp [hturns]))
  · obtain ⟨front, back, hturns, rfl, hback⟩ := List.map_eq_append_iff.mp hsplit
    obtain ⟨w, left, rfl, rfl, rfl⟩ := List.map_eq_cons_iff.mp hback
    have hw := (attempt_wonAt (hnow w (by simp [hturns]))).mp hwins
    refine ⟨front ++ [w], left, ⟨by simp [hturns], ?_, fun _ => ⟨front, w, rfl, hw⟩⟩,
      by simp [hstarted]⟩
    intro before t behind hsame hatonce
    -- Two candidates that answer at once, of which neither can be before the other's front.
    have hone : front ++ [w] <+: turns := ⟨left, by simp [hturns]⟩
    have hother : before ++ [t] <+: turns := ⟨behind, by simp [hsame]⟩
    rcases List.prefix_or_prefix_of_prefix hone hother with hprefix | hprefix
    · exact hprefix
    · rcases List.prefix_concat_iff.mp hprefix with heq | hfront
      · exact heq ▸ List.prefix_rfl
      · have hmem : ∀ x ∈ front, x.instant = now := fun x hx => hnow x (by simp [hturns, hx])
        exact absurd hatonce (hlost hmem hbefore t (hfront.mem (by simp)))

/-- How a race can go: some candidate's answer is the first to come, or all fail. -/
theorem race_cases (c : Call) (net : Network) (limit now : Nat) (e : Endpoint)
    (rest : List Endpoint) :
    let turns := lineUp now (e :: rest)
    let run := race (c.attempt net limit) now e rest
    ∃ contacted left, c.Contacts net limit turns contacted left ∧
      run.sent = contacted.filterMap c.sentAt ∧
      ((∃ winner ∈ contacted, ∃ response,
        c.Answers net limit winner response ∧
        run.outcome = .ok (passedBack response) ∧
        run.ended = now + c.wait net limit winner ∧
        ∀ t ∈ turns, ∀ other, c.Answers net limit t other →
          run.ended ≤ now + c.wait net limit t) ∨
      ((∀ t ∈ turns, ∃ why, c.Fails net limit t why) ∧
        ∃ last ∈ contacted, ∃ why, c.Fails net limit last why ∧
        run.outcome = .error why ∧
        run.ended = now + c.wait net limit last ∧
        ∀ t ∈ turns, now + c.wait net limit t ≤ run.ended)) := by
  intro turns run
  have hnow : ∀ t ∈ turns, t.instant = now := fun t => instant_of_lineUp
  obtain ⟨contacted, left, hcontacts, hstarted⟩ := exists_contacts c net limit hnow
  obtain ⟨kept, hkept, hrun, hcase⟩ := race_keeps (c.attempt net limit) now e rest
  rw [hstarted] at hkept hrun hcase
  obtain ⟨d, hd, rfl⟩ := List.mem_map.mp hkept
  have hends : ∀ t ∈ contacted, (c.attempt net limit t).ended = now + c.wait net limit t := by
    intro t ht
    have hmem : t ∈ turns := hcontacts.parts ▸ List.mem_append_left _ ht
    rw [attempt_ended, hnow t hmem]
  have hended : run.ended = now + c.wait net limit d :=
    (congrArg Fanout.ended hrun).trans (hends d hd)
  have hout : run.outcome = (c.attempt net limit d).outcome := congrArg Fanout.outcome hrun
  have hsent : run.sent = contacted.filterMap c.sentAt := by
    have hone : (fun a : Attempt => a.sent) ∘ c.attempt net limit = c.sentAt :=
      funext fun _ => attempt_sent
    rw [← hone, ← List.filterMap_map]
    exact congrArg Fanout.sent hrun
  refine ⟨contacted, left, hcontacts, hsent, ?_⟩
  rcases hcase with ⟨hok, hfirst⟩ | ⟨hnone, hlast⟩
  · have hearliest : ∀ t ∈ contacted, (∃ other, c.Answers net limit t other) →
        run.ended ≤ now + c.wait net limit t := by
      intro t ht hother
      rw [hended, ← hends d hd, ← hends t ht]
      exact hfirst _ (List.mem_map_of_mem ht) (attempt_isOk.mpr hother)
    obtain ⟨response, hanswers⟩ := attempt_isOk.mp hok
    refine Or.inl ⟨d, hd, response, hanswers, hout.trans hanswers.outcome, hended, ?_⟩
    intro t ht other hother
    rw [hcontacts.parts, List.mem_append] at ht
    rcases ht with ht | ht
    · exact hearliest t ht ⟨other, hother⟩
    · -- Left unmade behind an answer that came at once, so this one is not earlier.
      obtain ⟨w, hw, hanswer, hatonce⟩ := hcontacts.at_once_of_left (List.ne_nil_of_mem ht)
      have hend := hearliest w hw hanswer
      omega
  · have hsilent : ∀ t ∈ contacted, ∀ response, ¬ c.Answers net limit t response := by
      intro t ht response hanswers
      have hfalse := hnone _ (List.mem_map_of_mem ht)
      rw [attempt_isOk.mpr ⟨response, hanswers⟩] at hfalse
      cases hfalse
    have hfails : ∀ t ∈ contacted, ∃ why, c.Fails net limit t why ∧
        (c.attempt net limit t).outcome = .error why := by
      intro t ht
      rcases attempt_cases c net limit t with ⟨response, hanswers, -⟩ | hfails
      · exact absurd hanswers (hsilent t ht response)
      · exact hfails
    obtain ⟨why, hwhy, herror⟩ := hfails d hd
    rw [hcontacts.all_of_none hsilent]
    refine Or.inr ⟨?_, d, hd, why, hwhy, hout.trans herror, hended, ?_⟩
    · intro t ht
      obtain ⟨other, hother, -⟩ := hfails t ht
      exact ⟨other, hother⟩
    · intro t ht
      rw [hended, ← hends d hd, ← hends t ht]
      exact hlast _ (List.mem_map_of_mem ht)

/-- **In a race, the answer that comes first ends a call.**  All candidates are contacted at one
instant, in order, each at most once and on an occasion of its own, but for those behind one that
answers at once.  Either some candidate answers: then the response that is passed back is the one
of a candidate that was contacted, the call ends when it comes, and no answer comes before it.  Or
all candidates fail: the error counts them and tells the failure of one that took longest, and when
the call ends, which is within the limit, no candidate is waited for any more. -/
theorem dispatch_in_race (c : Call) (s : FanoutSettings) (net : Network) (now : Nat) (e : Endpoint)
    (rest : List Endpoint) :
    let limit := s.attemptLimit
    let turns := lineUp now (e :: rest)
    let run := c.dispatch { s with policy := .race } net now (e :: rest)
    turns.map (·.candidate) = e :: rest ∧
      turns.map (·.place) = List.range (e :: rest).length ∧
      (∀ t ∈ turns, t.instant = now) ∧
      ∃ contacted left, c.Contacts net limit turns contacted left ∧
        run.sent = contacted.filterMap c.sentAt ∧
        ((∃ winner ∈ contacted, ∃ response,
          c.Answers net limit winner response ∧
          run.answer = .ok (passedBack response) ∧
          run.ended = now + c.wait net limit winner ∧
          ∀ t ∈ turns, ∀ other, c.Answers net limit t other →
            run.ended ≤ now + c.wait net limit t) ∨
        ((∀ t ∈ turns, ∃ why, c.Fails net limit t why) ∧
          ∃ last ∈ contacted, ∃ why, c.Fails net limit last why ∧
          run.answer = .error (.exhausted c.model (e :: rest).length why.message) ∧
          run.ended = now + c.wait net limit last ∧
          (∀ t ∈ turns, now + c.wait net limit t ≤ run.ended) ∧
          run.ended ≤ now + limit)) := by
  intro limit turns run
  obtain ⟨contacted, left, hcontacts, hsent, hcase⟩ := race_cases c net limit now e rest
  have hanswer : run.answer = (race (c.attempt net limit) now e rest).outcome.mapError
      fun last => .exhausted c.model (e :: rest).length last.message := rfl
  refine ⟨lineUp_candidates now _, lineUp_places now _, fun t => instant_of_lineUp, contacted, left,
    hcontacts, hsent, ?_⟩
  rcases hcase with ⟨winner, hwinner, response, hanswers, hout, hended, hfirst⟩ |
    ⟨hfail, last, hlast, why, hwhy, hout, hended, hover⟩
  · refine Or.inl ⟨winner, hwinner, response, hanswers, ?_, hended, hfirst⟩
    rw [hanswer, hout]
    rfl
  · refine Or.inr ⟨hfail, last, hlast, why, hwhy, ?_, hended, hover, ?_⟩
    · rw [hanswer, hout]
      rfl
    · have hwait := wait_le c net limit last
      have hend : run.ended = now + c.wait net limit last := hended
      omega

/-- Of two candidates that share a backend the second may be answered first. -/
example :
    let base : Url := ⟨"http", some ⟨"", "", .name "b", none⟩, .segments ["v1"], none, none⟩
    let candidate (i : Nat) : Endpoint := ⟨.ofStatic i, base, "key", .ofList ["m"], .settings⟩
    let c : Call := { model := "m", method := "POST", path := "/chat" }
    let net : Network := { reply := fun o _ =>
      { delay := 30 - 20 * o.place, outcome := .ok { status := ⟨200 + o.place⟩ } } }
    let run := c.dispatch { policy := .race } net 0 [candidate 0, candidate 1]
    run.answer.toOption.map (·.status) = some ⟨201⟩ ∧ run.ended = 10 := by
  decide +kernel

end Call

end ModelGateway

/-
One candidate after another.

A candidate's turn comes when the attempt before it has failed, so when that is depends
on how long every candidate before it took.  `turns` lists the turns of all candidates as
they would come; a call in sequence makes the turns of this list from the front, up to the
first that succeeds.  No two of them are one occasion, so a backend that two candidates
share may fail the first and answer the second, even at one instant.
-/
import ModelGateway.Proofs.Fanout.Attempt

namespace ModelGateway.Call

/-- The turns of candidates, each coming when the one before it has failed. -/
def turns (c : Call) (net : Network) (limit : Nat) : Occasion → List Endpoint → List Turn
  | _, [] => []
  | o, e :: rest =>
    ⟨o, e⟩ :: turns c net limit (o.next (o.instant + c.wait net limit ⟨o, e⟩)) rest

/-- The request that is sent when a turn comes; nothing if it cannot be built. -/
def sentAt (c : Call) (t : Turn) : Option Sent :=
  (c.requestFor t.candidate).toOption.map (Sent.mk t.toOccasion)

variable {c : Call} {net : Network} {limit : Nat}

/-- Every candidate has one turn, in order. -/
theorem turns_candidates (o : Occasion) (es : List Endpoint) :
    (c.turns net limit o es).map (·.candidate) = es := by
  induction es generalizing o with
  | nil => rfl
  | cons e rest ih => rw [turns, List.map_cons, ih]

/-- Every turn has a place of its own. -/
theorem turns_places (o : Occasion) (es : List Endpoint) :
    (c.turns net limit o es).map (·.place) = List.range' o.place es.length := by
  induction es generalizing o with
  | nil => rfl
  | cons e rest ih =>
    rw [turns, List.map_cons, ih, List.length_cons, List.range'_succ]
    rfl

/-- How a call in sequence can go: some turn is the first to succeed, or all fail. -/
theorem sequence_cases (c : Call) (net : Network) (limit : Nat) (o : Occasion) (e : Endpoint)
    (rest : List Endpoint) :
    (∃ before winner behind response,
      c.turns net limit o (e :: rest) = before ++ winner :: behind ∧
      (∀ t ∈ before, ∃ why, c.Fails net limit t why) ∧
      c.Answers net limit winner response ∧
      (sequence (c.attempt net limit) ⟨o, e⟩ rest).outcome = .ok (passedBack response) ∧
      (sequence (c.attempt net limit) ⟨o, e⟩ rest).sent =
        (before ++ [winner]).filterMap c.sentAt) ∨
    ∃ before last why,
      c.turns net limit o (e :: rest) = before ++ [last] ∧
      (∀ t ∈ before, ∃ why, c.Fails net limit t why) ∧
      c.Fails net limit last why ∧
      (sequence (c.attempt net limit) ⟨o, e⟩ rest).outcome = .error why ∧
      (sequence (c.attempt net limit) ⟨o, e⟩ rest).sent =
        (before ++ [last]).filterMap c.sentAt := by
  have hsent : ∀ t : Turn, (c.attempt net limit t).sent.toList =
      [t].filterMap c.sentAt := by
    intro t
    rw [attempt_sent]
    show (c.sentAt t).toList = [t].filterMap c.sentAt
    cases h : c.sentAt t <;> simp [h]
  induction rest generalizing o e with
  | nil =>
    rcases attempt_cases c net limit ⟨o, e⟩ with
      ⟨response, hanswer, hout⟩ | ⟨why, hfail, hout⟩
    · exact Or.inl ⟨[], ⟨o, e⟩, [], response, rfl, by simp, hanswer, hout, hsent ⟨o, e⟩⟩
    · exact Or.inr ⟨[], ⟨o, e⟩, why, rfl, by simp, hfail, hout, hsent ⟨o, e⟩⟩
  | cons next rest ih =>
    rcases attempt_cases c net limit ⟨o, e⟩ with
      ⟨response, hanswer, hout⟩ | ⟨why, hfail, hout⟩
    · refine Or.inl ⟨[], ⟨o, e⟩, _, response, rfl, by simp, hanswer, ?_, ?_⟩
      · rw [sequence, hout]
      · rw [sequence, hout]
        exact hsent ⟨o, e⟩
    · -- The head's turn is over, and the rest goes on as if it had been called then.
      let o' := o.next (o.instant + c.wait net limit ⟨o, e⟩)
      have hrest := ih o' next
      have hfails : ∀ before : List Turn,
          (∀ t ∈ before, ∃ why, c.Fails net limit t why) →
          ∀ t ∈ ⟨o, e⟩ :: before, ∃ why, c.Fails net limit t why := by
        intro before hbefore t ht
        rcases List.mem_cons.mp ht with rfl | ht
        · exact ⟨why, hfail⟩
        · exact hbefore t ht
      have hstep : sequence (c.attempt net limit) ⟨o, e⟩ (next :: rest) =
          { sequence (c.attempt net limit) ⟨o', next⟩ rest with
            sent := (c.attempt net limit ⟨o, e⟩).sent.toList ++
              (sequence (c.attempt net limit) ⟨o', next⟩ rest).sent } := by
        rw [sequence, hout, attempt_ended]
      rw [hstep, turns]
      rcases hrest with ⟨before, winner, behind, response, hturns, hbefore, hanswer, ho, hs⟩ |
        ⟨before, last, why', hturns, hbefore, hlast, ho, hs⟩
      · refine Or.inl ⟨⟨o, e⟩ :: before, winner, behind, response, ?_, hfails before hbefore,
          hanswer, ho, ?_⟩
        · rw [hturns, List.cons_append]
        · show (c.attempt net limit ⟨o, e⟩).sent.toList ++ _ = _
          rw [hs, hsent ⟨o, e⟩, ← List.filterMap_append]
          rfl
      · refine Or.inr ⟨⟨o, e⟩ :: before, last, why', ?_, hfails before hbefore, hlast, ho, ?_⟩
        · rw [hturns, List.cons_append]
        · show (c.attempt net limit ⟨o, e⟩).sent.toList ++ _ = _
          rw [hs, hsent ⟨o, e⟩, ← List.filterMap_append]
          rfl

/-- **In sequence, the first candidate that answers ends a call.**  Every candidate has one turn,
in order and on an occasion of its own.  Either some turn is the first whose candidate answers: its
response is passed back, and the requests sent are those of the turns up to it.  Or every turn
fails: the error counts the candidates and tells the last failure, and the requests sent are those
of all turns. -/
theorem dispatch_in_sequence (c : Call) (s : FanoutSettings) (net : Network) (now : Nat)
    (e : Endpoint) (rest : List Endpoint) :
    let turns := c.turns net s.attemptLimit { instant := now } (e :: rest)
    let run := c.dispatch { s with policy := .sequential } net now (e :: rest)
    turns.map (·.candidate) = e :: rest ∧
      turns.map (·.place) = List.range (e :: rest).length ∧
      ((∃ before winner behind response,
        turns = before ++ winner :: behind ∧
        (∀ t ∈ before, ∃ why, c.Fails net s.attemptLimit t why) ∧
        c.Answers net s.attemptLimit winner response ∧
        run.answer = .ok (passedBack response) ∧
        run.sent = (before ++ [winner]).filterMap c.sentAt) ∨
      ∃ before last why,
        turns = before ++ [last] ∧
        (∀ t ∈ before, ∃ why, c.Fails net s.attemptLimit t why) ∧
        c.Fails net s.attemptLimit last why ∧
        run.answer = .error (.exhausted c.model (e :: rest).length why.message) ∧
        run.sent = turns.filterMap c.sentAt) := by
  intro turns run
  have hplaces : turns.map (·.place) = List.range (e :: rest).length :=
    (turns_places { instant := now } (e :: rest)).trans (List.range_eq_range' ..).symm
  refine ⟨turns_candidates { instant := now } (e :: rest), hplaces, ?_⟩
  rcases sequence_cases c net s.attemptLimit { instant := now } e rest with
    ⟨before, winner, behind, response, hturns, hbefore, hanswer, hout, hsent⟩ |
    ⟨before, last, why, hturns, hbefore, hfail, hout, hsent⟩
  · refine Or.inl ⟨before, winner, behind, response, hturns, hbefore, hanswer, ?_, hsent⟩
    show Except.mapError _
      (sequence (c.attempt net s.attemptLimit) ⟨{ instant := now }, e⟩ rest).outcome = _
    rw [hout]
    rfl
  · refine Or.inr ⟨before, last, why, hturns, hbefore, hfail, ?_, hsent.trans (by rw [← hturns])⟩
    show Except.mapError _
      (sequence (c.attempt net s.attemptLimit) ⟨{ instant := now }, e⟩ rest).outcome = _
    rw [hout]
    rfl

/-- A backend that two candidates share refuses the first of them and answers the second, at one
instant. -/
example :
    let base : Url := ⟨"http", some ⟨"", "", .name "b", none⟩, .segments ["v1"], none, none⟩
    let candidate (i : Nat) : Endpoint := ⟨.ofStatic i, base, "key", .ofList ["m"], .settings⟩
    let c : Call := { model := "m", method := "POST", path := "/chat" }
    let net : Network := { reply := fun o _ =>
      { outcome := if o.place = 0 then .error "refused" else .ok { status := ⟨200⟩ } } }
    let run := c.dispatch {} net 0 [candidate 0, candidate 1]
    run.answer.toOption.map (·.status) = some ⟨200⟩ ∧ run.sent.map (·.instant) = [0, 0] := by
  decide +kernel

end ModelGateway.Call

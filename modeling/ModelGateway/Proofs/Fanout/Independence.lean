/-
What does not depend on policy, balance or turn.

The balancer only turns the list of candidates, and a sequence and a race each end with
the answer of a candidate that answers, if there is one.  Where what backends say depends
on nothing but the request, it is the same candidates that answer in every order and on
every occasion, so whether a call succeeds is decided by the candidates alone: it does if
one of them would answer as the only candidate.

Which of several is passed back may differ; where only one would answer, there is nothing
to differ in.
-/
import ModelGateway.Proofs.Fanout.Balance
import ModelGateway.Proofs.Fanout.Race
import ModelGateway.Proofs.Registry.Agreement

namespace ModelGateway

/-- Backends whose replies and delays depend on nothing but what they are sent. -/
def Network.ofReplies (reply : Request → Reply) : Network := { reply := fun _ => reply }

namespace Call

variable {c : Call} {s : FanoutSettings} {reply : Request → Reply} {limit : Nat} {e : Endpoint}
  {t : Turn}

/-- Such backends answer on every occasion what they answer on one. -/
theorem Answers.on_any_occasion {response : Response}
    (h : c.Answers (.ofReplies reply) limit t response) (o : Occasion) :
    c.Answers (.ofReplies reply) limit ⟨o, t.candidate⟩ response := by
  obtain ⟨built, inTime, came, sound⟩ := h
  exact .intro built inTime came sound

/-- An outcome is decided by candidates alone: it is the answer of one that answers, and an error
only if none does. -/
def DecidedBy (c : Call) (net : Network) (limit : Nat) (candidates : List Endpoint)
    (outcome : Except AttemptError Response) : Prop :=
  (∃ d ∈ candidates, ∃ response, c.Answers net limit ⟨0, d⟩ response ∧
    outcome = .ok (passedBack response)) ∨
  (∀ d ∈ candidates, ∀ response, ¬ c.Answers net limit ⟨0, d⟩ response) ∧
    ∃ why, outcome = .error why

theorem sequence_decided (c : Call) (reply : Request → Reply) (limit : Nat) (o : Occasion)
    (e : Endpoint) (rest : List Endpoint) :
    c.DecidedBy (.ofReplies reply) limit (e :: rest)
      (sequence (c.attempt (.ofReplies reply) limit) ⟨o, e⟩ rest).outcome := by
  have hturns : (c.turns (.ofReplies reply) limit o (e :: rest)).map (·.candidate) = e :: rest :=
    turns_candidates o (e :: rest)
  rcases sequence_cases c (.ofReplies reply) limit o e rest with
    ⟨before, winner, behind, response, hsplit, -, hanswers, hout, -⟩ |
    ⟨before, last, why, hsplit, hbefore, hlast, hout, -⟩
  · have hwinner : winner.candidate ∈ e :: rest := by
      rw [← hturns, hsplit]
      simp
    exact Or.inl ⟨winner.candidate, hwinner, response, hanswers.on_any_occasion 0, hout⟩
  · refine Or.inr ⟨?_, why, hout⟩
    intro d hd response hanswers
    rw [← hturns, hsplit] at hd
    obtain ⟨t, ht, rfl⟩ := List.mem_map.mp hd
    have hfails : ∃ why, c.Fails (.ofReplies reply) limit t why := by
      rcases List.mem_append.mp ht with ht | ht
      · exact hbefore t ht
      · rw [List.mem_singleton.mp ht]
        exact ⟨why, hlast⟩
    obtain ⟨other, hother⟩ := hfails
    exact (hanswers.on_any_occasion t.toOccasion).not_fails hother

theorem race_decided (c : Call) (reply : Request → Reply) (limit now : Nat) (e : Endpoint)
    (rest : List Endpoint) :
    c.DecidedBy (.ofReplies reply) limit (e :: rest)
      (race (c.attempt (.ofReplies reply) limit) now e rest).outcome := by
  have hturns := lineUp_candidates now (e :: rest)
  obtain ⟨contacted, left, hcontacts, -, hcase⟩ := race_cases c (.ofReplies reply) limit now e rest
  rcases hcase with ⟨winner, hwinner, response, hanswers, hout, -⟩ |
    ⟨hfails, last, -, why, -, hout, -⟩
  · have hmem : winner.candidate ∈ e :: rest := by
      rw [← hturns, hcontacts.parts]
      exact List.mem_map_of_mem (List.mem_append_left _ hwinner)
    exact Or.inl ⟨winner.candidate, hmem, response, hanswers.on_any_occasion 0, hout⟩
  · refine Or.inr ⟨?_, why, hout⟩
    intro d hd response hanswers
    rw [← hturns] at hd
    obtain ⟨t, ht, rfl⟩ := List.mem_map.mp hd
    obtain ⟨other, hother⟩ := hfails t ht
    exact (hanswers.on_any_occasion t.toOccasion).not_fails hother

/-- Under either policy a call gets the answer of a candidate that answers; if none does, the error
counts the candidates. -/
theorem dispatch_cases (c : Call) (s : FanoutSettings) (reply : Request → Reply) (now : Nat)
    {candidates : List Endpoint} (hsome : candidates ≠ []) :
    let net := Network.ofReplies reply
    let answer := (c.dispatch s net now candidates).answer
    (∃ d ∈ candidates, ∃ response, c.Answers net s.attemptLimit ⟨0, d⟩ response ∧
      answer = .ok (passedBack response)) ∨
    (∀ d ∈ candidates, ∀ response, ¬ c.Answers net s.attemptLimit ⟨0, d⟩ response) ∧
      ∃ last, answer = .error (.exhausted c.model candidates.length last) := by
  intro net answer
  obtain ⟨e, rest, rfl⟩ := List.exists_cons_of_ne_nil hsome
  obtain ⟨outcome, hdecided, hanswer⟩ : ∃ outcome,
      c.DecidedBy net s.attemptLimit (e :: rest) outcome ∧ answer = outcome.mapError
        fun last => .exhausted c.model (e :: rest).length last.message := by
    cases hpolicy : s.policy with
    | sequential =>
      refine ⟨_, sequence_decided c reply s.attemptLimit { instant := now } e rest, ?_⟩
      simp only [answer, dispatch, hpolicy]
      rfl
    | race =>
      refine ⟨_, race_decided c reply s.attemptLimit now e rest, ?_⟩
      simp only [answer, dispatch, hpolicy]
      rfl
  rcases hdecided with ⟨d, hd, response, hanswers, rfl⟩ | ⟨hnone, why, rfl⟩
  · exact Or.inl ⟨d, hd, response, hanswers, hanswer⟩
  · exact Or.inr ⟨hnone, why.message, hanswer⟩

/-- What a call gets from an endpoint that is its only candidate. -/
def alone (c : Call) (s : FanoutSettings) (net : Network) (e : Endpoint) :
    Except CallError Response :=
  (c.dispatch s net 0 [e]).answer

/-- A call to an endpoint succeeds alone exactly if the endpoint answers it. -/
theorem alone_eq_ok_iff {response : Response} :
    c.alone s (.ofReplies reply) e = .ok response ↔
      ∃ given, c.Answers (.ofReplies reply) s.attemptLimit ⟨0, e⟩ given ∧
        response = passedBack given := by
  rcases dispatch_cases c s reply 0 (List.cons_ne_nil e []) with
    ⟨d, hd, given, hanswers, hok⟩ | ⟨hnone, last, herror⟩
  · rw [List.mem_singleton.mp hd] at hanswers
    have halone : c.alone s (.ofReplies reply) e = .ok (passedBack given) := hok
    rw [halone]
    constructor
    · intro h
      exact ⟨given, hanswers, (Except.ok.inj h).symm⟩
    · intro h
      obtain ⟨other, hother, hresponse⟩ := h
      rw [hresponse, hanswers.unique hother]
  · have halone : c.alone s (.ofReplies reply) e = .error (.exhausted c.model 1 last) := herror
    rw [halone]
    constructor
    · intro h
      cases h
    · intro h
      obtain ⟨other, hother, -⟩ := h
      exact absurd hother (hnone e (by simp) other)

/-- **Whether a call succeeds is decided by the candidates alone.**  Whatever the policy, the
balance and the turns taken, and whenever it is made, a call to the endpoints of a registry that
serve its model succeeds exactly if one of them would succeed alone; otherwise the error counts
these endpoints.  If only one of them would succeed, it is always its response that is passed
back. -/
theorem dispatch_in_any_order (changes : List Registry.Change) (c : Call) (s : FanoutSettings)
    (reply : Request → Reply)
    (hserved : ∃ e ∈ (Registry.after changes).endpoints, e.serves c.model = true) :
    let net := Network.ofReplies reply
    let serving := (Registry.after changes).endpoints.filter (·.serves c.model)
    ∀ (policy : Policy) (b : Balancer) (now : Nat),
      let ordered := (b.order c.model ((Registry.after changes).serving c.model)).1
      let answer := (c.dispatch { s with policy } net now ordered).answer
      ((∃ response, answer = .ok response) ↔
          ∃ e ∈ serving, ∃ response, c.alone s net e = .ok response) ∧
        ((∀ e ∈ serving, ∀ response, c.alone s net e ≠ .ok response) →
          ∃ last, answer = .error (.exhausted c.model serving.length last)) ∧
        ∀ e ∈ serving, ∀ response, c.alone s net e = .ok response →
          (∀ d ∈ serving, ∀ other, c.alone s net d = .ok other → d = e) →
          answer = .ok response := by
  intro net serving policy b now ordered answer
  have hserving : (Registry.after changes).serving c.model = serving :=
    (Registry.after_sound changes).serving_eq_filter c.model
  have hperm : ordered.Perm serving := hserving ▸ b.order_perm c.model _
  have hsome : ordered ≠ [] := by
    obtain ⟨e, he, hmodel⟩ := hserved
    have hmem : e ∈ ordered := hperm.mem_iff.mpr (List.mem_filter.mpr ⟨he, hmodel⟩)
    exact List.ne_nil_of_mem hmem
  rcases dispatch_cases c { s with policy } reply now hsome with
    ⟨d, hd, given, hanswers, hok⟩ | ⟨hnone, last, herror⟩
  · have halone : c.alone s net d = .ok (passedBack given) :=
      alone_eq_ok_iff.mpr ⟨given, hanswers, rfl⟩
    have hserves := hperm.mem_iff.mp hd
    refine ⟨⟨fun _ => ⟨d, hserves, _, halone⟩, fun _ => ⟨_, hok⟩⟩, ?_, ?_⟩
    · intro hfail
      exact absurd halone (hfail d hserves _)
    · intro e _ response hresponse honly
      rw [honly d hserves _ halone, hresponse] at halone
      exact hok.trans halone.symm
  · have hfail : ∀ e ∈ serving, ∀ response, c.alone s net e ≠ .ok response := by
      intro e he response hresponse
      obtain ⟨given, hanswers, -⟩ := alone_eq_ok_iff.mp hresponse
      exact hnone e (hperm.mem_iff.mpr he) given hanswers
    refine ⟨⟨?_, ?_⟩, ?_, ?_⟩
    · intro h
      obtain ⟨response, hok⟩ := h
      exact absurd (herror.symm.trans hok) (by simp)
    · intro h
      obtain ⟨e, he, response, hresponse⟩ := h
      exact absurd hresponse (hfail e he response)
    · intro _
      exact ⟨last, by rw [← hperm.length_eq]; exact herror⟩
    · intro e he response hresponse
      exact absurd hresponse (hfail e he response)

/-- Of two endpoints one refuses every call, so it is the other's response that is passed back. -/
theorem dispatch_in_any_order_of_two :
    let url (host : String) : Url :=
      ⟨"http", some ⟨"", "", .name host, none⟩, .segments ["v1"], none, none⟩
    let a : Endpoint := ⟨.ofStatic 0, url "a", "key", .ofList ["m", "n"], .settings⟩
    let b : Endpoint := ⟨.ofStatic 1, url "b", "", .ofList ["m"], .settings⟩
    let registry := Registry.after [.put a, .put b]
    let c : Call := { model := "m", method := "POST", path := "/chat" }
    let reply (q : Request) : Reply :=
      if q.uri.host = "b" then { delay := 20, outcome := .ok { status := ⟨404⟩ } }
      else { outcome := .error "refused" }
    (∃ e ∈ registry.endpoints, e.serves c.model = true) ∧
      ∀ (policy : Policy) (balancer : Balancer) (now : Nat),
        (c.dispatch { policy } (.ofReplies reply) now
          (balancer.order c.model (registry.serving c.model)).1).answer =
            .ok { status := ⟨404⟩ } := by
  intro url a b registry c reply
  have hserving : registry.endpoints.filter (·.serves c.model) = [a, b] := by decide +kernel
  have hserved : ∃ e ∈ registry.endpoints, e.serves c.model = true := by
    have ha : a ∈ registry.endpoints.filter (·.serves c.model) := by
      rw [hserving]
      simp
    exact ⟨a, List.mem_filter.mp ha⟩
  have hcalled : (c.requestFor a).toOption.map (·.uri.host) = some "a" ∧
      (c.requestFor b).toOption.map (·.uri.host) = some "b" := by decide +kernel
  have hhost : ∀ {e : Endpoint} {host : String} {request : Request},
      (c.requestFor e).toOption.map (·.uri.host) = some host → c.requestFor e = .ok request →
      request.uri.host = host := by
    intro e host request hcalled hbuilt
    rw [hbuilt] at hcalled
    exact Option.some.inj hcalled
  have hrefuses : ∀ other, c.alone {} (.ofReplies reply) a ≠ .ok other := by
    intro other h
    obtain ⟨given, ⟨built, -, came, -⟩, -⟩ := alone_eq_ok_iff.mp h
    simp [Network.ofReplies, reply, hhost hcalled.1 built] at came
  have hgives : c.alone {} (.ofReplies reply) b = .ok { status := ⟨404⟩ } := by
    cases built : c.requestFor b with
    | error cause =>
      rw [built] at hcalled
      cases hcalled.2
    | ok request =>
      have hreply : reply request = { delay := 20, outcome := .ok { status := ⟨404⟩ } } :=
        if_pos (hhost hcalled.2 built)
      refine alone_eq_ok_iff.mpr ⟨{ status := ⟨404⟩ }, .intro built ?_ ?_ (by decide), rfl⟩
      · show (reply request).delay ≤ _
        rw [hreply]
        decide
      · show (reply request).outcome = _
        rw [hreply]
  refine ⟨hserved, fun policy balancer now => ?_⟩
  have hany := (dispatch_in_any_order [.put a, .put b] c {} reply hserved policy balancer now).2.2
  refine hany b ?_ _ hgives ?_
  · rw [hserving]
    simp
  · intro d hd other hother
    rw [hserving] at hd
    rcases List.mem_cons.mp hd with rfl | hd
    · exact absurd hother (hrefuses other)
    · exact List.mem_singleton.mp hd

end Call

end ModelGateway

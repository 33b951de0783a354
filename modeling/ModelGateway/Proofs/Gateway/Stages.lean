/-
The first stage that fails decides.

Each stage of a call can be asked by itself what it has against a request: the gate looks at
the headers, the body at its own size, the model at headers and bytes, and the look-up at the
endpoints there are.  The answer to a request is what the first of them says that has something
against it, whatever those behind it would have said, and up to there nothing is sent and
nothing changes.

If none has anything against it, one turn is taken where there is a choice, and only endpoints
that serve the model are contacted.
-/
import ModelGateway.Proofs.Fanout.Balance
import ModelGateway.Proofs.Fanout.Outbound
import ModelGateway.Proofs.Gateway.Admission
import ModelGateway.Proofs.Registry.Agreement

namespace ModelGateway

/-- The stages of a call before a backend is contacted. -/
inductive Stage
  | gate
  | body
  | model
  | lookup
deriving DecidableEq, Repr

namespace Stage

/-- The stages in the order in which they decide. -/
def inOrder : List Stage := [gate, body, model, lookup]

/-- The status of an answer that a stage gives. -/
def status : Stage → Status
  | gate => ⟨401⟩
  | body => ⟨400⟩
  | model => ⟨400⟩
  | lookup => ⟨404⟩

end Stage

/-- The call that a request for a model asks for. -/
def Inbound.callFor (r : Inbound) (model : String) : Call where
  model := model
  method := r.method
  path := Gateway.behindRoot r.uri.shownPath
  query := r.uri.query
  headers := r.headers
  body := r.body.bytes

namespace Gateway

/-- What a stage has against a request, asked by itself. -/
def objection? (g : Gateway) (r : Inbound) : Stage → Option CallError
  | .gate =>
    match g.gate.authenticate r.headers with
    | .error cause => some (.unauthorized cause)
    | .ok _ => none
  | .body =>
    let unread (reason : String) : CallError :=
      .badRequest ("failed to read request body: " ++ reason)
    if maxRequestBody < r.body.bytes.size then some (unread Body.lengthExceeded)
    else r.body.broken.map unread
  | .model =>
    match requestedModel r.headers r.body.bytes with
    | .error e => some e
    | .ok _ => none
  | .lookup =>
    match requestedModel r.headers r.body.bytes with
    | .error _ => none
    | .ok model =>
      if g.registry.endpoints.any (·.serves model) then none else some (.modelNotFound model)

/-- The first stage that has something against a request, and what. -/
def stop? (g : Gateway) (r : Inbound) : Option (Stage × CallError) :=
  Stage.inOrder.findSome? fun stage => (g.objection? r stage).map (stage, ·)

variable {g : Gateway} {net : Network} {now : Nat} {r : Inbound} {stage : Stage} {e : CallError}

/-! ### What single stages say -/

/-- Every stage answers with its own status. -/
theorem status_of_objection (h : g.objection? r stage = some e) : e.status = stage.status := by
  cases stage with
  | gate =>
    simp only [objection?] at h
    split at h
    · rw [← Option.some.inj h]
      rfl
    · cases h
  | body =>
    simp only [objection?] at h
    split at h
    · rw [← Option.some.inj h]
      rfl
    · obtain ⟨reason, -, rfl⟩ := Option.map_eq_some_iff.mp h
      rfl
  | model =>
    simp only [objection?] at h
    split at h
    · next hmodel => exact Option.some.inj h ▸ requestedModel_refusal hmodel
    · cases h
  | lookup =>
    simp only [objection?] at h
    split at h
    · cases h
    · split at h
      · cases h
      · rw [← Option.some.inj h]
        rfl

theorem readBody_eq (g : Gateway) (r : Inbound) :
    readBody r = match g.objection? r .body with
      | some e => .error e
      | none => .ok r.body.bytes := by
  unfold readBody Body.collect objection?
  simp only
  split
  · rfl
  · cases r.body.broken <;> rfl

/-- The look-up by model fails exactly if no endpoint serves the model. -/
theorem resolve_eq (h : Registry.Sound g.registry) (model : String) :
    g.resolve model =
      if g.registry.endpoints.any (·.serves model) then .ok (g.registry.serving model)
      else .error (.modelNotFound model) := by
  unfold resolve
  have hserving := h.serving_eq_filter model
  by_cases hany : g.registry.endpoints.any (·.serves model) = true
  · obtain ⟨e, he, hserves⟩ := List.any_eq_true.mp hany
    have hne : g.registry.serving model ≠ [] := by
      rw [hserving]
      exact List.ne_nil_of_mem (List.mem_filter.mpr ⟨he, hserves⟩)
    rw [if_pos hany]
    split
    · next hnil => exact absurd hnil hne
    · rfl
  · have hnil : g.registry.serving model = [] := by
      rw [hserving, List.filter_eq_nil_iff]
      intro e he hserves
      exact hany (List.any_eq_true.mpr ⟨e, he, hserves⟩)
    rw [if_neg hany, hnil]

/-! ### All stages -/

/-- A request whose caller passes the gate goes through the other stages. -/
theorem accept_of_admitted {caller : Caller} (h : g.gate.authenticate r.headers = .ok caller) :
    g.accept r = (readBody r >>= fun body => requestedModel r.headers body >>= fun model =>
      g.resolve model >>= fun candidates =>
        .ok ({ r.callFor model with body }, candidates)) := by
  unfold accept
  rw [h]
  rfl

/-- A request is turned down by the first stage that has something against it; otherwise it names
a model, and the endpoints that serve it are its candidates. -/
theorem accept_cases (h : Registry.Sound g.registry) (r : Inbound) :
    (∃ stage e, g.stop? r = some (stage, e) ∧ g.accept r = .error e) ∨
      ∃ model, g.stop? r = none ∧ requestedModel r.headers r.body.bytes = .ok model ∧
        (∃ e ∈ g.registry.endpoints, e.serves model = true) ∧
        g.accept r = .ok (r.callFor model, g.registry.serving model) := by
  unfold stop? Stage.inOrder
  cases hgate : g.gate.authenticate r.headers with
  | error cause =>
    have hobjects : g.objection? r .gate = some (.unauthorized cause) := by
      simp only [objection?, hgate]
    exact Or.inl ⟨.gate, _, by simp [hobjects], accept_unauthorized_iff.mpr hgate⟩
  | ok caller =>
    have hpasses : g.objection? r .gate = none := by simp only [objection?, hgate]
    rw [accept_of_admitted hgate, readBody_eq g]
    cases hbody : g.objection? r .body with
    | some e => exact Or.inl ⟨.body, e, by simp [hpasses, hbody], rfl⟩
    | none =>
      simp only [Result.ok_bind]
      cases hmodel : requestedModel r.headers r.body.bytes with
      | error e =>
        have hobjects : g.objection? r .model = some e := by simp only [objection?, hmodel]
        exact Or.inl ⟨.model, e, by simp [hpasses, hbody, hobjects], rfl⟩
      | ok model =>
        have hnamed : g.objection? r .model = none := by simp only [objection?, hmodel]
        rw [Result.ok_bind, resolve_eq h]
        by_cases hany : g.registry.endpoints.any (·.serves model) = true
        · have hserved : g.objection? r .lookup = none := by
            simp only [objection?, hmodel, if_pos hany]
          refine Or.inr ⟨model, by simp [hpasses, hbody, hnamed, hserved], rfl,
            List.any_eq_true.mp hany, ?_⟩
          rw [if_pos hany]
          rfl
        · have hobjects : g.objection? r .lookup = some (.modelNotFound model) := by
            simp only [objection?, hmodel, if_neg hany]
          refine Or.inl ⟨.lookup, .modelNotFound model,
            by simp [hpasses, hbody, hnamed, hobjects], ?_⟩
          rw [if_neg hany]
          rfl

theorem objection_of_stop (h : g.stop? r = some (stage, e)) : g.objection? r stage = some e := by
  obtain ⟨other, -, hother⟩ := List.exists_of_findSome?_eq_some h
  obtain ⟨found, hfound, heq⟩ := Option.map_eq_some_iff.mp hother
  obtain ⟨rfl, rfl⟩ := Prod.mk.inj heq
  exact hfound

/-- What is stopped is answered with what stops it, and nothing else happens. -/
theorem proxy_of_stop (h : Registry.Sound g.registry) (hstop : g.stop? r = some (stage, e)) :
    g.proxy net now r = { gateway := g, sent := [], ended := now, answer := .error e } := by
  unfold proxy
  rcases accept_cases h r with ⟨other, e', hother, haccept⟩ | ⟨model, hnone, -, -, -⟩
  · obtain ⟨-, rfl⟩ := Prod.mk.inj (Option.some.inj (hstop.symm.trans hother))
    rw [haccept]
  · rw [hstop] at hnone
    cases hnone

/-- What is not stopped is dispatched to the endpoints that serve the model it names, in the order
whose turn it is. -/
theorem proxy_of_no_stop (h : Registry.Sound g.registry) (net : Network) (now : Nat)
    (hstop : g.stop? r = none) :
    ∃ model, requestedModel r.headers r.body.bytes = .ok model ∧
      let serving := g.registry.endpoints.filter (·.serves model)
      let turned := g.balancer.order model serving
      let run := (r.callFor model).dispatch g.dispatch net now turned.1
      serving ≠ [] ∧ g.proxy net now r =
        { gateway := { g with balancer := turned.2 }, sent := run.sent, ended := run.ended,
          answer := run.answer } := by
  rcases accept_cases h r with ⟨stage, e, hother, -⟩ | ⟨model, -, hmodel, hserved, haccept⟩
  · rw [hstop] at hother
    cases hother
  · refine ⟨model, hmodel, ?_, ?_⟩
    · obtain ⟨e, he, hserves⟩ := hserved
      exact List.ne_nil_of_mem (List.mem_filter.mpr ⟨he, hserves⟩)
    · unfold proxy
      rw [haccept, ← h.serving_eq_filter]
      rfl

/-- Short of an error of the backends, a request is answered with an error exactly if a stage stops
it that has its status. -/
theorem refused_iff (h : Registry.Sound g.registry) (net : Network) (now : Nat) (r : Inbound)
    {status : Status} (hstatus : status ≠ ⟨502⟩) :
    (∃ e, (g.proxy net now r).answer = .error e ∧ e.status = status) ↔
      ∃ stage e, g.stop? r = some (stage, e) ∧ stage.status = status := by
  constructor
  · intro hrefused
    obtain ⟨e, herror, rfl⟩ := hrefused
    cases hstop : g.stop? r with
    | some stopped =>
      obtain ⟨stage, e'⟩ := stopped
      rw [proxy_of_stop h hstop] at herror
      obtain rfl : e' = e := Except.error.inj herror
      exact ⟨stage, e', rfl, (status_of_objection (objection_of_stop hstop)).symm⟩
    | none =>
      obtain ⟨model, -, hsome, hproxy⟩ := proxy_of_no_stop h net now hstop
      have hturned : (g.balancer.order model
          (g.registry.endpoints.filter (·.serves model))).1 ≠ [] := by
        intro hnil
        exact hsome (List.nil_perm.mp (hnil ▸ g.balancer.order_perm model _))
      rw [hproxy] at herror
      rcases Call.dispatch_refusal herror with ⟨hnil, -⟩ | hexhausted
      · exact absurd hnil hturned
      · exact absurd hexhausted hstatus
  · intro hstopped
    obtain ⟨stage, e, hstop, rfl⟩ := hstopped
    refine ⟨e, ?_, status_of_objection (objection_of_stop hstop)⟩
    rw [proxy_of_stop h hstop]

/-- **The first stage that fails decides.**  If a stage has something against a request, the first
that has answers it with its own status; no backend is contacted, and neither an endpoint nor a
turn changes.  Short of an error of the backends, no other request is answered with an error.  If
no stage has anything against it, endpoints serve the model it names; one turn of that model and of
no other is taken where there is a choice in turn, and nothing else changes; and only these
endpoints are contacted. -/
theorem serve_in_stages (changes : List Registry.Change) (g : Gateway) (net : Network) (now : Nat)
    (r : Inbound) (hregistry : g.registry = Registry.after changes)
    (hroute : Route.ofPath? r.uri.shownPath = some .proxy) (hpost : r.method = "POST") :
    let answer := (g.proxy net now r).answer
    let served := g.serve net now r
    (∀ stage e, g.stop? r = some (stage, e) →
      served = { gateway := g, sent := [], ended := now, response := e.response } ∧
        e.response.status = stage.status) ∧
    (∀ status, status ≠ ⟨502⟩ → ((∃ e, answer = .error e ∧ e.status = status) ↔
      ∃ stage e, g.stop? r = some (stage, e) ∧ stage.status = status)) ∧
    (g.stop? r = none → ∃ model, requestedModel r.headers r.body.bytes = .ok model ∧
      let serving := g.registry.endpoints.filter (·.serves model)
      let choice := g.balancer.balance = .roundRobin ∧ 2 ≤ serving.length
      serving ≠ [] ∧
      served.gateway = { g with balancer := served.gateway.balancer } ∧
      (choice → (∀ m, served.gateway.balancer.turn m =
          g.balancer.turn m + if m = model then 1 else 0) ∧
        ∀ x ∈ served.gateway.balancer.turns, x.1 = model ∨ x ∈ g.balancer.turns) ∧
      (¬ choice → served.gateway = g) ∧
      ∀ x ∈ served.sent, ∃ e ∈ serving, (r.callFor model).requestFor e = .ok x.request) := by
  have hsound : Registry.Sound g.registry := hregistry ▸ Registry.after_sound changes
  intro answer served
  have hserved : served = _ := serve_proxy hroute hpost
  refine ⟨?_, ?_, ?_⟩
  · intro stage e hstop
    rw [hserved, proxy_of_stop hsound hstop]
    exact ⟨rfl, status_of_objection (objection_of_stop hstop)⟩
  · intro status hstatus
    exact refused_iff hsound net now r hstatus
  · intro hstop
    obtain ⟨model, hmodel, hsome, hproxy⟩ := proxy_of_no_stop hsound net now hstop
    refine ⟨model, hmodel, ?_⟩
    intro serving choice
    have hgateway : served.gateway =
        { g with balancer := (g.balancer.order model serving).2 } := by
      rw [hserved, hproxy]
    refine ⟨hsome, by rw [hgateway], ?_, ?_, ?_⟩
    · intro hchoice
      rw [hgateway]
      exact Balancer.balancer_of_choice hchoice.1 hchoice.2 model
    · intro hchoice
      rw [hgateway, Balancer.balancer_of_no_choice hchoice]
    · intro x hx
      rw [hserved, hproxy] at hx
      obtain ⟨e, he, hbuilt⟩ := Call.dispatch_sent hx
      exact ⟨e, (g.balancer.order_perm model serving).mem_iff.mp he, hbuilt⟩

/-- Two endpoints serve a model in turn.  A body that broke off is the caller's fault even where no
endpoint serves the model, a whole one is not; and a turn is taken only for a model that is
served. -/
theorem serve_in_stages_of_three :
    let url (host : String) : Url :=
      ⟨"http", some ⟨"", "", .name host, none⟩, .segments ["v1"], none, none⟩
    let a : Endpoint := ⟨.ofStatic 0, url "a", "", .ofList ["m"], .settings⟩
    let b : Endpoint := ⟨.ofStatic 1, url "b", "", .ofList ["m"], .settings⟩
    let g : Gateway := {
      registry := Registry.after [.put a, .put b]
      gate := {}
      dispatch := {}
      balancer := { balance := .roundRobin } }
    let net : Network := { reply := fun _ _ => { outcome := .ok { status := ⟨200⟩ } } }
    let ask (model : String) (broken : Option String) : Inbound := {
      method := "POST", uri := { path := "/v1/chat" },
      headers := [("model-override", .ofText model)], body := { broken } }
    (g.serve net 0 (ask "x" (some "reset"))).gateway = g ∧
      (g.serve net 0 (ask "x" (some "reset"))).response.status = ⟨400⟩ ∧
      (g.serve net 0 (ask "x" none)).gateway = g ∧
      (g.serve net 0 (ask "x" none)).response.status = ⟨404⟩ ∧
      (g.serve net 0 (ask "m" none)).gateway.balancer.turn "m" = 1 := by
  intro url a b g net ask
  have hroute : Route.ofPath? "/v1/chat" = some .proxy := by decide
  have hstages (model : String) (broken : Option String) :=
    serve_in_stages [.put a, .put b] g net 0 (ask model broken) rfl hroute rfl
  have hbroken : g.stop? (ask "x" (some "reset")) =
      some (.body, .badRequest "failed to read request body: reset") := by decide +kernel
  have hunknown : g.stop? (ask "x" none) = some (.lookup, .modelNotFound "x") := by
    decide +kernel
  obtain ⟨hserved, hstatus⟩ := (hstages "x" (some "reset")).1 _ _ hbroken
  obtain ⟨hserved', hstatus'⟩ := (hstages "x" none).1 _ _ hunknown
  refine ⟨by rw [hserved], by rw [hserved, hstatus]; rfl, by rw [hserved'],
    by rw [hserved', hstatus']; rfl, ?_⟩
  obtain ⟨model, hmodel, -, -, hturn, -⟩ := (hstages "m" none).2.2 (by decide +kernel)
  have hm : requestedModel (ask "m" none).headers (ask "m" none).body.bytes = .ok "m" := by
    decide +kernel
  obtain rfl : model = "m" := Except.ok.inj (hmodel.symm.trans hm)
  have hcount := (hturn ⟨rfl, by decide +kernel⟩).1 "m"
  rw [hcount]
  rfl

end Gateway

end ModelGateway

/-
Nothing is sent for a caller that does not pass.

The gate stands before everything else that a gateway does for a call.  A caller that does
not pass is told that it is not authorized, no backend is contacted and no turn is taken.
One that passes is never told so by the gateway, whatever becomes of its call.
-/
import ModelGateway.Gateway.Router
import ModelGateway.Proofs.Credential.Gate
import ModelGateway.Proofs.Result

namespace ModelGateway

/-! ### Behind the gate

Whatever is wrong behind the gate has a status of its own, so none of it is that the caller
is not authorized.
-/

variable {e : CallError}

theorem requestedModel_refusal {headers : Headers} {body : ByteArray}
    (h : requestedModel headers body = .error e) : e.status = ⟨400⟩ := by
  -- an empty name is a bad request, wherever it stood
  have hempty : ∀ model : String,
      (if model = "" then .error (.badRequest "model must not be empty") else .ok model) =
        (.error e : Except CallError String) → e.status = ⟨400⟩ := by
    intro model hmodel
    split at hmodel
    · rw [← Except.error.inj hmodel]
      rfl
    · cases hmodel
  unfold requestedModel at h
  cases hvalue : headers.get? overrideHeader with
  | none =>
    simp only [hvalue] at h
    rcases Result.bind_eq_error.mp h with h | ⟨model, -, h⟩
    · obtain ⟨why, -, rfl⟩ := Result.mapError_eq_error.mp h
      rfl
    · exact hempty model h
  | some value =>
    simp only [hvalue] at h
    rcases Result.bind_eq_error.mp h with h | ⟨model, -, h⟩
    · unfold overridden at h
      split at h
      · cases h
      · rw [← Except.error.inj h]
        rfl
    · exact hempty model h

/-- Candidates are lacking or have all failed. -/
theorem Call.dispatch_refusal {c : Call} {s : FanoutSettings} {net : Network} {now : Nat}
    {candidates : List Endpoint} (h : (c.dispatch s net now candidates).answer = .error e) :
    (candidates = [] ∧ e.status = ⟨404⟩) ∨ e.status = ⟨502⟩ := by
  cases candidates with
  | nil =>
    rw [← Except.error.inj h]
    exact Or.inl ⟨rfl, rfl⟩
  | cons d rest =>
    obtain ⟨why, -, rfl⟩ := Result.mapError_eq_error.mp h
    exact Or.inr rfl

namespace Gateway

variable {g : Gateway} {cipher : TokenCipher} {net : Network} {now : Nat} {r : Inbound}

theorem readBody_refusal (h : readBody r = .error e) : e.status = ⟨400⟩ := by
  obtain ⟨why, -, rfl⟩ := Result.mapError_eq_error.mp h
  rfl

theorem resolve_refusal {model : String} (h : g.resolve model = .error e) :
    e.status = ⟨404⟩ := by
  unfold resolve at h
  split at h
  · rw [← Except.error.inj h]
    rfl
  · cases h

/-! ### At the gate -/

/-- A call is not authorized exactly if the gate turns the caller away. -/
theorem accept_unauthorized_iff {cause : AuthError} :
    g.accept r = .error (.unauthorized cause) ↔ g.gate.authenticate r.headers = .error cause := by
  constructor
  · intro h
    rcases Result.bind_eq_error.mp h with h | ⟨caller, -, h⟩
    · obtain ⟨other, hother, heq⟩ := Result.mapError_eq_error.mp h
      cases heq
      exact hother
    · rcases Result.bind_eq_error.mp h with h | ⟨body, -, h⟩
      · exact nomatch readBody_refusal h
      · rcases Result.bind_eq_error.mp h with h | ⟨model, -, h⟩
        · exact nomatch requestedModel_refusal h
        · rcases Result.bind_eq_error.mp h with h | ⟨candidates, -, h⟩
          · exact nomatch resolve_refusal h
          · cases h
  · intro h
    exact Result.bind_eq_error.mpr (Or.inl (by rw [h]; rfl))

theorem proxy_of_refused {cause : AuthError} (h : g.gate.authenticate r.headers = .error cause) :
    g.proxy net now r =
      { gateway := g, sent := [], ended := now, answer := .error (.unauthorized cause) } := by
  unfold proxy
  rw [accept_unauthorized_iff.mpr h]

/-- A caller that passes the gate is not told later that it may not call. -/
theorem proxy_of_admitted {caller : Caller} (h : g.gate.authenticate r.headers = .ok caller)
    (cause : AuthError) : (g.proxy net now r).answer ≠ .error (.unauthorized cause) := by
  unfold proxy
  cases haccept : g.accept r with
  | error e =>
    intro heq
    have he : e = .unauthorized cause := Except.error.inj heq
    rw [he, accept_unauthorized_iff, h] at haccept
    cases haccept
  | ok accepted =>
    intro h
    rcases Call.dispatch_refusal h with ⟨-, h⟩ | h
    · cases h
    · cases h

/-- What is posted below the API root is passed on. -/
theorem serve_proxy (hroute : Route.ofPath? r.uri.shownPath = some .proxy)
    (hpost : r.method = "POST") :
    let p := g.proxy net now r
    g.serve net now r =
      { gateway := p.gateway, sent := p.sent, ended := p.ended, response := match p.answer with
        | .ok response => response
        | .error e => e.response } := by
  have hknown : Route.proxy.methods.contains r.method = true := by
    rw [hpost]
    decide
  intro p
  unfold serve
  simp only [hroute, hknown, Bool.not_true, Bool.false_eq_true, if_false]
  rfl

/-- A caller that does not pass is told so, and nothing else happens. -/
theorem serve_of_refused (hroute : Route.ofPath? r.uri.shownPath = some .proxy)
    (hpost : r.method = "POST") {cause : AuthError}
    (h : g.gate.authenticate r.headers = .error cause) :
    g.serve net now r =
      { gateway := g, sent := [], ended := now,
        response := (CallError.unauthorized cause).response } := by
  rw [serve_proxy hroute hpost, proxy_of_refused h]

/-- **Nothing is sent for a caller that does not pass.**  If a backend is contacted, the caller
passes the gate, and by a token that opens where one is required.  A caller that does not pass is
told that it is not authorized, and the gateway stays as it is; one that passes is not told so.
Who presents the gateway's mark without a token that opens does not pass, whether or not a token is
required. -/
theorem serve_admits (g : Gateway) (cipher : TokenCipher) (net : Network) (now : Nat) (r : Inbound)
    (hkey : g.gate.cipher = some cipher)
    (hroute : Route.ofPath? r.uri.shownPath = some .proxy) (hpost : r.method = "POST") :
    let served := g.serve net now r
    (served.sent ≠ [] → ∃ caller, g.gate.Admits cipher r.headers caller ∧
      (g.gate.requireToken = true → ∃ identity, caller = .verified identity)) ∧
    ((¬ ∃ caller, g.gate.Admits cipher r.headers caller) →
      served.sent = [] ∧ served.gateway = g ∧ served.response.status = ⟨401⟩ ∧
        ∃ cause, served.response = (CallError.unauthorized cause).response) ∧
    ((∃ caller, g.gate.Admits cipher r.headers caller) →
      ∀ cause, (g.proxy net now r).answer ≠ .error (.unauthorized cause)) ∧
    ∀ credential, r.headers.Bring credential → g.gate.Marked credential →
      (∀ identity, ¬ g.gate.Opens cipher credential identity) →
        served.sent = [] ∧ served.response.status = ⟨401⟩ := by
  intro served
  have hrefused : (¬ ∃ caller, g.gate.Admits cipher r.headers caller) →
      served.sent = [] ∧ served.gateway = g ∧ served.response.status = ⟨401⟩ ∧
        ∃ cause, served.response = (CallError.unauthorized cause).response := by
    intro hnone
    cases hcaller : g.gate.authenticate r.headers with
    | ok caller => exact absurd ⟨caller, (Gate.authenticate_eq_ok_iff hkey).mp hcaller⟩ hnone
    | error cause =>
      have hserved : served = _ := serve_of_refused hroute hpost hcaller
      rw [hserved]
      exact ⟨rfl, rfl, rfl, cause, rfl⟩
  refine ⟨?_, hrefused, ?_, ?_⟩
  · intro hsent
    by_cases hadmits : ∃ caller, g.gate.Admits cipher r.headers caller
    · obtain ⟨caller, hadmits⟩ := hadmits
      exact ⟨caller, hadmits, hadmits.verified_of_required⟩
    · exact absurd (hrefused hadmits).1 hsent
  · intro hadmits cause
    obtain ⟨caller, hadmits⟩ := hadmits
    exact proxy_of_admitted ((Gate.authenticate_eq_ok_iff hkey).mpr hadmits) cause
  · intro credential hbring hmarked hforged
    have hnone : ¬ ∃ caller, g.gate.Admits cipher r.headers caller := by
      intro h
      obtain ⟨caller, hadmits⟩ := h
      exact Gate.not_admits_of_forged hbring hmarked hforged hadmits
    obtain ⟨hsent, -, hstatus, -⟩ := hrefused hnone
    exact ⟨hsent, hstatus⟩

/-- Where a token is required, a caller with one is passed on, and one whose token is cut short is
turned away. -/
theorem serve_admits_token :
    let cipher : TokenCipher := ⟨.ofList (List.replicate 32 7)⟩
    let e : Endpoint := ⟨.ofStatic 0,
      ⟨"http", some ⟨"", "", .name "a", none⟩, .segments ["v1"], none, none⟩, "",
      .ofList ["m"], .settings⟩
    let g : Gateway := {
      registry := Registry.put {} e
      gate := { cipher := some cipher, mark := "BORG:", requireToken := true }
      dispatch := {}
      balancer := { balance := .inOrder } }
    let net : Network := { reply := fun _ _ => { outcome := .ok { status := ⟨200⟩ } } }
    let ask (authorization : String) : Inbound := {
      method := "POST", uri := { path := "/v1/chat" },
      headers := [("authorization", .ofText authorization), ("model-override", .ofText "m")] }
    let full := ask " bearer  BORG:AQEBAQEBAQEBAQEBz66VDSTwQw41KyGqjCVL3w=="
    let short := ask "BORG:AQEBAQEBAQEBAQEB"
    ((g.serve net 0 full).sent.length = 1 ∧
      ∃ identity, g.gate.Admits cipher full.headers (.verified identity)) ∧
    (g.serve net 0 short).sent = [] ∧ (g.serve net 0 short).response.status = ⟨401⟩ := by
  intro cipher e g net ask full short
  constructor
  · have hsent : (g.serve net 0 full).sent.length = 1 := by decide +kernel
    obtain ⟨caller, hadmits, hknown⟩ :=
      (serve_admits g cipher net 0 full rfl (by decide) rfl).1 (List.ne_nil_of_length_pos (by omega))
    obtain ⟨identity, rfl⟩ := hknown rfl
    exact ⟨hsent, identity, hadmits⟩
  · have hbring : short.headers.Bring "BORG:AQEBAQEBAQEBAQEB".toList :=
      ⟨.ofText "BORG:AQEBAQEBAQEBAQEB", "BORG:AQEBAQEBAQEBAQEB", by decide, by decide +kernel,
        presents_iff.mpr (by decide +kernel)⟩
    have hmarked : g.gate.Marked "BORG:AQEBAQEBAQEBAQEB".toList :=
      ⟨by decide, "AQEBAQEBAQEBAQEB".toList, by decide⟩
    have hforged : ∀ identity,
        ¬ g.gate.Opens cipher "BORG:AQEBAQEBAQEBAQEB".toList identity := by
      intro identity h
      obtain ⟨-, token, htoken, hopen⟩ := h
      have hparts : "BORG:".toList ++ token = "BORG:".toList ++ "AQEBAQEBAQEBAQEB".toList :=
        htoken.symm
      have hletters : token = "AQEBAQEBAQEBAQEB".toList := List.append_cancel_left hparts
      rw [hletters] at hopen
      have hshort : cipher.identity? (String.ofList "AQEBAQEBAQEBAQEB".toList) = none := by
        decide +kernel
      rw [hshort] at hopen
      cases hopen
    exact (serve_admits g cipher net 0 short rfl (by decide) rfl).2.2.2 _ hbring hmarked hforged

end Gateway

end ModelGateway

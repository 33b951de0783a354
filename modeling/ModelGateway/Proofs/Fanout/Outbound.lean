/-
What a backend is told.

A call is addressed anew for each candidate, always from the headers that the caller sent.
Two lists of names are struck, a host is set and a credential is set; since both names that
are set are struck as well, a request has the caller's other headers untouched, then at
most one `host` and at most one `authorization`, which are the candidate's own.  That is
`requestFor_eq`, and everything else about a request is read off from it: it says nothing
of what the caller sent under a name that is struck, and nothing of any other candidate.
-/
import ModelGateway.Proofs.Fanout.Race
import ModelGateway.Proofs.Result
import ModelGateway.Proofs.Text.Utf8
import ModelGateway.Proofs.Url.Authority

namespace ModelGateway

/-! ### Striking and setting headers -/

namespace Headers

variable {h : Headers} {names more : List String} {name : String}

theorem without_append (h k : Headers) (names : List String) :
    without (h ++ k) names = h.without names ++ k.without names :=
  List.filter_append ..

theorem without_without (h : Headers) (names more : List String) :
    (h.without names).without more = h.without (names ++ more) := by
  unfold without
  rw [List.filter_filter]
  congr 1
  funext x
  simp [Bool.and_comm]

/-- Striking a name that is struck already changes nothing. -/
theorem without_struck (hname : name ∈ names) :
    (h.without names).without [name] = h.without names := by
  refine List.filter_eq_self.mpr fun x hx => ?_
  have hkept := (List.mem_filter.mp hx).2
  simp only [Bool.not_eq_true', List.contains_eq_mem, decide_eq_false_iff_not] at hkept ⊢
  intro hx
  rw [List.mem_singleton.mp hx] at hkept
  exact hkept hname

/-- Setting a name that is struck adds one header. -/
theorem set_struck (hname : name ∈ names) (value : HeaderValue) :
    (h.without names).set name value = h.without names ++ [(name, value)] := by
  rw [set, without_struck hname]

end Headers

/-! ### The two headers that are set -/

/-- The header that names the host of an address, if it has one. -/
def hostLine (url : Url) : Except Unbuildable Headers :=
  match url.hostAndPort? with
  | none => .ok []
  | some host =>
    match HeaderValue.ofText? host with
    | some value => .ok [("host", value)]
    | none => .error .host

/-- The header that carries a credential, if there is one. -/
def credentialLine (credential : String) : Except Unbuildable Headers :=
  if credential = "" then .ok []
  else
    match bearerValue? credential with
    | some value => .ok [("authorization", value)]
    | none => .error .credential

theorem forHost_struck {names : List String} (hname : "host" ∈ names) (h : Headers) (url : Url) :
    (h.without names).forHost url = (hostLine url).map (h.without names ++ ·) := by
  unfold Headers.forHost hostLine
  cases url.hostAndPort? with
  | none => simp [Except.map]
  | some host =>
    cases hvalue : HeaderValue.ofText? host with
    | none => simp [hvalue, Except.map]
    | some value => simp [hvalue, Except.map, Headers.set_struck hname]

theorem forCredential_eq (h : Headers) (credential : String) :
    h.forCredential credential = match credentialLine credential with
      | .ok line => (h.without credentialHeaders ++ line, true)
      | .error _ => (h.without credentialHeaders, false) := by
  have hname : "authorization" ∈ credentialHeaders := by decide
  unfold Headers.forCredential credentialLine
  by_cases hempty : credential = ""
  · simp [hempty]
  · rw [if_neg hempty, if_neg hempty]
    cases bearerValue? credential with
    | none => rfl
    | some value => simp [Headers.set_struck hname]

theorem credentialLine_error {credential : String} {cause : Unbuildable}
    (h : credentialLine credential = .error cause) : cause = .credential := by
  unfold credentialLine at h
  split at h
  · cases h
  · split at h
    · cases h
    · exact (Except.error.inj h).symm

/-- A host is no credential. -/
theorem hostLine_without {url : Url} {line : Headers} (h : hostLine url = .ok line) :
    line.without credentialHeaders = line := by
  unfold hostLine at h
  split at h
  · rw [← Except.ok.inj h]
    rfl
  · split at h
    · rw [← Except.ok.inj h]
      rfl
    · cases h

/-- An address says whom a call goes to, whatever its path and query. -/
theorem hostLine_callUrl (e : Endpoint) (rest : String) (query : Option String) :
    hostLine (e.callUrl rest query) = hostLine e.baseUrl := by
  have hauthority : (e.callUrl rest query).authority = e.baseUrl.authority := by
    simp [Endpoint.callUrl]
  unfold hostLine Url.hostAndPort? Url.host? Url.port?
  rw [hauthority]

namespace Call

/-- The headers that no backend sees. -/
def withheld : List String := connectionHeaders ++ credentialHeaders

/-- The request of a call to an endpoint: the headers that the caller sent under other names, and
the endpoint's own host and credential. -/
theorem requestFor_eq (c : Call) (e : Endpoint) :
    c.requestFor e = (do
      let host ← hostLine e.baseUrl
      let credential ← credentialLine e.credential
      let uri ← (Uri.parse (e.callUrl c.path c.query).render).mapError .target
      .ok { method := c.method, uri, headers := c.headers.without withheld ++ host ++ credential,
            body := c.body }) := by
  have hstruck : "host" ∈ connectionHeaders := by decide
  unfold requestFor
  simp only [forHost_struck hstruck, hostLine_callUrl]
  cases hhost : hostLine e.baseUrl with
  | error cause => rfl
  | ok host =>
    have hkept : (c.headers.without connectionHeaders ++ host).without credentialHeaders =
        c.headers.without withheld ++ host := by
      rw [Headers.without_append, Headers.without_without, hostLine_without hhost, withheld]
    simp only [Except.map, Result.ok_bind, forCredential_eq, hkept]
    cases hline : credentialLine e.credential with
    | error cause =>
      rw [credentialLine_error hline]
      rfl
    | ok line => rfl

/-! ### Which requests a call sends -/

variable {c : Call} {s : FanoutSettings} {net : Network} {now : Nat} {candidates : List Endpoint}

theorem sentAt_eq_some {t : Turn} {x : Sent} (h : c.sentAt t = some x) :
    c.requestFor t.candidate = .ok x.request := by
  obtain ⟨request, hrequest, rfl⟩ := Option.map_eq_some_iff.mp h
  cases hbuilt : c.requestFor t.candidate with
  | error cause =>
    rw [hbuilt] at hrequest
    cases hrequest
  | ok built =>
    rw [hbuilt] at hrequest
    rw [Option.some.inj hrequest]

/-- A sequence sends to its candidates in order, from the first up to some of them. -/
theorem sequence_sent (c : Call) (net : Network) (limit : Nat) (o : Occasion) (e : Endpoint)
    (rest : List Endpoint) :
    ∃ came : List Turn, came.map (·.candidate) <+: e :: rest ∧
      (sequence (c.attempt net limit) ⟨o, e⟩ rest).sent = came.filterMap c.sentAt := by
  have hturns : (c.turns net limit o (e :: rest)).map (·.candidate) = e :: rest :=
    turns_candidates o (e :: rest)
  rw [← hturns]
  rcases sequence_cases c net limit o e rest with
    ⟨before, winner, behind, -, hsplit, -, -, -, hsent⟩ | ⟨before, last, -, hsplit, -, -, -, hsent⟩
  · refine ⟨before ++ [winner], List.IsPrefix.map _ ⟨behind, ?_⟩, hsent⟩
    rw [hsplit, List.append_assoc, List.singleton_append]
  · exact ⟨before ++ [last], hsplit ▸ List.prefix_rfl, hsent⟩

/-- So does a race. -/
theorem race_sent (c : Call) (net : Network) (limit now : Nat) (e : Endpoint)
    (rest : List Endpoint) :
    ∃ came : List Turn, came.map (·.candidate) <+: e :: rest ∧
      (race (c.attempt net limit) now e rest).sent = came.filterMap c.sentAt := by
  obtain ⟨contacted, left, hcontacts, hsent, -⟩ := race_cases c net limit now e rest
  have hcontacted : contacted <+: lineUp now (e :: rest) := ⟨left, hcontacts.parts.symm⟩
  refine ⟨contacted, ?_, hsent⟩
  rw [← lineUp_candidates now (e :: rest)]
  exact hcontacted.map _

/-- Under either policy, what a call sends was built for one of its candidates. -/
theorem dispatch_sent {x : Sent} (h : x ∈ (c.dispatch s net now candidates).sent) :
    ∃ e ∈ candidates, c.requestFor e = .ok x.request := by
  cases candidates with
  | nil => cases h
  | cons e rest =>
    obtain ⟨came, hcame, hsent⟩ : ∃ came : List Turn, came.map (·.candidate) <+: e :: rest ∧
        (c.dispatch s net now (e :: rest)).sent = came.filterMap c.sentAt := by
      cases hpolicy : s.policy with
      | sequential =>
        simpa only [dispatch, hpolicy] using
          sequence_sent c net s.attemptLimit { instant := now } e rest
      | race => simpa only [dispatch, hpolicy] using race_sent c net s.attemptLimit now e rest
    rw [hsent] at h
    obtain ⟨t, ht, hx⟩ := List.mem_filterMap.mp h
    exact ⟨t.candidate, hcame.mem (List.mem_map_of_mem ht), sentAt_eq_some hx⟩

/-- Calls that ask the same of every endpoint go the same way. -/
theorem dispatch_congr {other : Call} (hmodel : c.model = other.model)
    (h : ∀ e, c.requestFor e = other.requestFor e) :
    c.dispatch s net now candidates = other.dispatch s net now candidates := by
  have hattempt : c.attempt = other.attempt := by
    funext net limit t
    unfold attempt
    rw [h]
  unfold dispatch
  rw [hattempt, hmodel]

end Call

/-! ### What a request says -/

/-- Whether every one of some headers may have its value. -/
def Headers.allowed (h : Headers) : Bool := h.all fun x => x.2.all HeaderValue.isAllowed

theorem HeaderValue.ofText?_eq (text : String) :
    ofText? text = if (ofText text).all isAllowed then some (ofText text) else none := rfl

namespace Endpoint

/-- The host of an endpoint as its requests name it: with the port unless the scheme implies it,
and without the user. -/
def hostTold (e : Endpoint) : Headers :=
  match e.baseUrl.host?, e.baseUrl.port? with
  | none, _ => []
  | some host, none => [("host", .ofText host)]
  | some host, some port =>
    if Url.defaultPort? e.baseUrl.scheme = some port then [("host", .ofText host)]
    else [("host", .ofText (host ++ ":" ++ toString port.toNat))]

/-- The credential of an endpoint as its requests carry it: nothing if it is empty. -/
def credentialTold (e : Endpoint) : Headers :=
  if e.credential = "" then [] else [("authorization", .ofText ("Bearer " ++ e.credential))]

variable {e : Endpoint}

theorem hostLine_eq (hmade : e.baseUrl.Made) :
    hostLine e.baseUrl = if e.hostTold.allowed then .ok e.hostTold else .error .host := by
  unfold hostLine Url.hostAndPort? hostTold
  cases e.baseUrl.host? with
  | none => rfl
  | some host =>
    cases hport : e.baseUrl.port? with
    | none =>
      simp only [Option.map_some, HeaderValue.ofText?_eq, Headers.allowed, List.all_cons,
        List.all_nil, Bool.and_true]
      split <;> simp_all
    | some port =>
      have hshown := hmade.port_ne_implied hport
      simp only [Option.map_some, HeaderValue.ofText?_eq, Headers.allowed, if_neg hshown,
        List.all_cons, List.all_nil, Bool.and_true]
      split <;> simp_all

theorem credentialLine_eq : credentialLine e.credential =
    if e.credentialTold.allowed then .ok e.credentialTold else .error .credential := by
  unfold credentialLine bearerValue? credentialTold
  by_cases hempty : e.credential = ""
  · rw [if_pos hempty, if_pos hempty]
    rfl
  · simp only [if_neg hempty, HeaderValue.ofText?_eq, Headers.allowed, List.all_cons, List.all_nil,
      Bool.and_true]
    split <;> simp_all

/-- Only its own credential is in what an endpoint is told. -/
theorem mem_credentialTold {credential : String}
    (h : ("authorization", HeaderValue.ofText ("Bearer " ++ credential)) ∈ e.credentialTold) :
    credential = e.credential := by
  unfold credentialTold at h
  split at h
  · cases h
  · obtain ⟨-, hvalue⟩ := Prod.mk.inj (List.mem_singleton.mp h)
    have htext := Utf8.encode_inj hvalue
    rw [String.toList_append, String.toList_append] at htext
    exact String.toList_inj.mp (List.append_cancel_left htext)

theorem hostTold_name {h : String × HeaderValue} (hmem : h ∈ e.hostTold) : h.1 = "host" := by
  unfold hostTold at hmem
  split at hmem
  · cases hmem
  · rw [List.mem_singleton.mp hmem]
  · split at hmem
    · rw [List.mem_singleton.mp hmem]
    · rw [List.mem_singleton.mp hmem]

end Endpoint

namespace Call

/-- Which request is built for an endpoint: one, unless what the endpoint would be told is no header
or its address no target. -/
theorem requestFor_eq_ok_iff {c : Call} {e : Endpoint} {request : Request}
    (hmade : e.baseUrl.Made) :
    c.requestFor e = .ok request ↔ e.hostTold.allowed ∧ e.credentialTold.allowed ∧
      ∃ uri, Uri.parse (e.callUrl c.path c.query).render = .ok uri ∧
        { method := c.method, uri, body := c.body, headers :=
          c.headers.without withheld ++ e.hostTold ++ e.credentialTold } = request := by
  rw [requestFor_eq, Endpoint.hostLine_eq hmade, Endpoint.credentialLine_eq]
  by_cases hhost : e.hostTold.allowed = true
  · by_cases hcredential : e.credentialTold.allowed = true
    · rw [if_pos hhost, if_pos hcredential, Result.ok_bind, Result.ok_bind, Result.bind_eq_ok]
      simp only [hhost, hcredential, true_and, Result.mapError_eq_ok, Except.ok.injEq]
    · rw [if_pos hhost, if_neg hcredential]
      simp [hcredential, bind, Except.bind]
  · rw [if_neg hhost]
    simp [hhost, bind, Except.bind]

/-- **A backend is told what is its own, and nothing that the caller withholds.**  Every request
that a call sends was built for one of its candidates.  It has the method and the body of the call,
the caller's headers but for those of the connection and its credentials, the host of the
candidate and, if that is not empty, the credential of the candidate, so no other endpoint's.
There is such a request unless host or credential can be no header or the address no target.
What the caller sent under the names that are withheld makes no difference to what is sent. -/
theorem dispatch_tells_own (c : Call) (s : FanoutSettings) (net : Network) (now : Nat)
    (candidates : List Endpoint) (hmade : ∀ e ∈ candidates, e.baseUrl.Made) :
    let kept (h : Headers) := h.filter fun x => x.1 ∉ ["host", "content-length", "connection",
      "keep-alive", "proxy-authenticate", "proxy-authorization", "te", "trailer",
      "transfer-encoding", "upgrade", "authorization", "api-key", "x-api-key"]
    (∀ x ∈ (c.dispatch s net now candidates).sent, ∃ e ∈ candidates,
      c.requestFor e = .ok x.request ∧
      x.request.method = c.method ∧
      x.request.body = c.body ∧
      x.request.headers = kept c.headers ++ e.hostTold ++ e.credentialTold ∧
      ∀ other : Endpoint,
        ("authorization", HeaderValue.ofText ("Bearer " ++ other.credential)) ∈ x.request.headers →
        other.credential = e.credential) ∧
    (∀ e ∈ candidates, (∃ request, c.requestFor e = .ok request) ↔
      e.hostTold.allowed ∧ e.credentialTold.allowed ∧
        ∃ uri, Uri.parse (e.callUrl c.path c.query).render = .ok uri) ∧
    ∀ headers, kept headers = kept c.headers →
      { c with headers }.dispatch s net now candidates = c.dispatch s net now candidates := by
  intro kept
  have hkept : ∀ h : Headers, h.without withheld = kept h := by
    intro h
    refine List.filter_congr fun x _ => ?_
    simp [withheld, connectionHeaders, credentialHeaders]
  refine ⟨?_, ?_, ?_⟩
  · intro x hx
    obtain ⟨e, he, hbuilt⟩ := dispatch_sent hx
    obtain ⟨-, -, uri, -, hrequest⟩ := (requestFor_eq_ok_iff (hmade e he)).mp hbuilt
    have hheaders : x.request.headers = kept c.headers ++ e.hostTold ++ e.credentialTold := by
      rw [← hrequest, hkept]
    refine ⟨e, he, hbuilt, by rw [← hrequest], by rw [← hrequest], hheaders, ?_⟩
    intro other hmem
    rw [hheaders] at hmem
    rcases List.mem_append.mp hmem with hmem | hmem
    · rcases List.mem_append.mp hmem with hmem | hmem
      · have hname := (List.mem_filter.mp hmem).2
        simp at hname
      · have hname := Endpoint.hostTold_name hmem
        simp at hname
    · exact Endpoint.mem_credentialTold hmem
  · intro e he
    constructor
    · intro h
      obtain ⟨request, hbuilt⟩ := h
      obtain ⟨hhost, hcredential, uri, huri, -⟩ := (requestFor_eq_ok_iff (hmade e he)).mp hbuilt
      exact ⟨hhost, hcredential, uri, huri⟩
    · intro h
      obtain ⟨hhost, hcredential, uri, huri⟩ := h
      exact ⟨_, (requestFor_eq_ok_iff (hmade e he)).mpr ⟨hhost, hcredential, uri, huri, rfl⟩⟩
  · intro headers hsame
    refine dispatch_congr rfl fun e => ?_
    rw [requestFor_eq, requestFor_eq, hkept, hkept, hsame]

/-- A caller's credentials and its `host` go to neither of two endpoints; what it repeats goes to
both. -/
theorem dispatch_tells_own_of_two :
    let a : Endpoint := ⟨.ofStatic 0,
      ⟨"http", some ⟨"user", "", .name "a", some 8000⟩, .segments ["v1"], none, none⟩, "key",
      .ofList ["m"], .settings⟩
    let b : Endpoint := ⟨.ofStatic 1,
      ⟨"https", some ⟨"", "", .name "b", none⟩, .segments ["v1"], none, none⟩, "", .ofList ["m"],
      .settings⟩
    let sender : Headers := [("x-tag", .ofText "1"), ("authorization", .ofText "Bearer caller"),
      ("host", .ofText "gateway"), ("x-tag", .ofText "2"), ("api-key", .ofText "caller")]
    let c : Call := { model := "m", method := "POST", path := "/chat", headers := sender }
    let net : Network := { reply := fun _ _ => { outcome := .error "refused" } }
    let sent := (c.dispatch {} net 0 [a, b]).sent
    let tags : Headers := [("x-tag", .ofText "1"), ("x-tag", .ofText "2")]
    (∀ e ∈ [a, b], e.baseUrl.Made) ∧ sent.length = 2 ∧
      ∀ x ∈ sent, x.request.headers =
          tags ++ [("host", .ofText "a:8000"), ("authorization", .ofText "Bearer key")] ∨
        x.request.headers = tags ++ [("host", .ofText "b")] := by
  intro a b sender c net sent tags
  have ha : Url.parse "http://user@a:8000/v1" = .ok a.baseUrl := by decide +kernel
  have hb : Url.parse "https://b:443/v1" = .ok b.baseUrl := by decide +kernel
  have hmade : ∀ e ∈ [a, b], e.baseUrl.Made := by
    intro e he
    rcases List.mem_cons.mp he with rfl | he
    · exact .read ha
    · rw [List.mem_singleton.mp he]
      exact .read hb
  refine ⟨hmade, by decide +kernel, ?_⟩
  intro x hx
  obtain ⟨e, he, -, -, -, hheaders, -⟩ := (dispatch_tells_own c {} net 0 [a, b] hmade).1 x hx
  rw [hheaders]
  rcases List.mem_cons.mp he with rfl | he
  · exact Or.inl (by decide +kernel)
  · rw [List.mem_singleton.mp he]
    exact Or.inr (by decide +kernel)

end Call

end ModelGateway

/-
How one attempt can go.

An attempt succeeds in one way and fails in four, and which of them it is depends on the
request that is built, on how long the backend takes and on what it says.  The two
relations here say so without the order in which the code asks; `attempt_cases` says
that an attempt is always exactly what they allow.

Beside its outcome an attempt has a request, if one could be built, and an end.  A
request that cannot be built costs no time, and one that comes too late costs the limit.
-/
import ModelGateway.Fanout.Policy

namespace ModelGateway.Call

/-- A backend answers a call on a turn in time, and not with a fault of its own. -/
inductive Answers (c : Call) (net : Network) (limit : Nat) (t : Turn) (response : Response) : Prop
  | intro {request : Request} (built : c.requestFor t.candidate = .ok request)
      (inTime : (net.reply t.toOccasion request).delay ≤ limit)
      (came : (net.reply t.toOccasion request).outcome = .ok response)
      (sound : response.status.isServerError = false)

/-- A backend gives no answer to a call on a turn, and why. -/
inductive Fails (c : Call) (net : Network) (limit : Nat) (t : Turn) : AttemptError → Prop
  | unbuildable {cause : Unbuildable} (broken : c.requestFor t.candidate = .error cause) :
      Fails c net limit t (.unbuildable cause)
  | late {request : Request} (built : c.requestFor t.candidate = .ok request)
      (tooLate : limit < (net.reply t.toOccasion request).delay) : Fails c net limit t (.late limit)
  | transport {request : Request} {reason : String} (built : c.requestFor t.candidate = .ok request)
      (inTime : (net.reply t.toOccasion request).delay ≤ limit)
      (broke : (net.reply t.toOccasion request).outcome = .error reason) :
      Fails c net limit t (.transport reason)
  | status {request : Request} {response : Response}
      (built : c.requestFor t.candidate = .ok request)
      (inTime : (net.reply t.toOccasion request).delay ≤ limit)
      (came : (net.reply t.toOccasion request).outcome = .ok response)
      (fault : response.status.isServerError = true) :
      Fails c net limit t (.status response.status)

/-- A backend's response as it is passed back. -/
def passedBack (response : Response) : Response where
  status := response.status
  headers := response.headers.filter fun h =>
    h.1 ∉ ["connection", "transfer-encoding", "keep-alive"]
  body := response.body

/-- How long a call waits for a backend. -/
def wait (c : Call) (net : Network) (limit : Nat) (t : Turn) : Nat :=
  match c.requestFor t.candidate with
  | .ok request => min (net.reply t.toOccasion request).delay limit
  | .error _ => 0

variable {c : Call} {net : Network} {limit : Nat} {t : Turn}

/-- A backend that answers a call does not fail it. -/
theorem Answers.not_fails {response : Response} {why : AttemptError}
    (h : c.Answers net limit t response) : ¬ c.Fails net limit t why := by
  intro hfails
  obtain ⟨built, inTime, came, sound⟩ := h
  cases hfails with
  | unbuildable broken => simp [built] at broken
  | late built' tooLate =>
    rw [Except.ok.inj (built.symm.trans built')] at inTime
    omega
  | transport built' _ broke =>
    rw [Except.ok.inj (built.symm.trans built'), broke] at came
    cases came
  | status built' _ came' fault =>
    rw [Except.ok.inj (built.symm.trans built'), came'] at came
    rw [Except.ok.inj came, sound] at fault
    cases fault

/-- A backend gives a call one answer. -/
theorem Answers.unique {response other : Response} (h : c.Answers net limit t response)
    (hother : c.Answers net limit t other) : response = other := by
  obtain ⟨built, -, came, -⟩ := h
  obtain ⟨built', -, came', -⟩ := hother
  rw [Except.ok.inj (built.symm.trans built'), came'] at came
  exact (Except.ok.inj came).symm

/-- An attempt is an answer that is passed back, or one of the four failures. -/
theorem attempt_cases (c : Call) (net : Network) (limit : Nat) (t : Turn) :
    (∃ response, c.Answers net limit t response ∧
      (c.attempt net limit t).outcome = .ok (passedBack response)) ∨
    ∃ why, c.Fails net limit t why ∧ (c.attempt net limit t).outcome = .error why := by
  unfold attempt
  cases built : c.requestFor t.candidate with
  | error cause => exact Or.inr ⟨_, .unbuildable built, rfl⟩
  | ok request =>
    simp only [Reply.within]
    by_cases inTime : (net.reply t.toOccasion request).delay ≤ limit
    · rw [if_pos inTime]
      cases came : (net.reply t.toOccasion request).outcome with
      | error reason => exact Or.inr ⟨_, .transport built inTime came, rfl⟩
      | ok response =>
        cases fault : response.status.isServerError with
        | true =>
          refine Or.inr ⟨_, .status built inTime came fault, ?_⟩
          simp [judge, fault]
        | false =>
          refine Or.inl ⟨response, .intro built inTime came fault, ?_⟩
          simp [judge, fault, passedBack, Headers.without, responseConnectionHeaders]
    · rw [if_neg inTime]
      exact Or.inr ⟨_, .late built (Nat.lt_of_not_le inTime), rfl⟩

theorem Answers.outcome {response : Response} (h : c.Answers net limit t response) :
    (c.attempt net limit t).outcome = .ok (passedBack response) := by
  rcases attempt_cases c net limit t with ⟨other, hother, hout⟩ | ⟨why, hfails, -⟩
  · rw [hout, h.unique hother]
  · exact absurd hfails h.not_fails

/-- The request of an attempt is sent when the attempt starts, if it can be built. -/
theorem attempt_sent :
    (c.attempt net limit t).sent =
      (c.requestFor t.candidate).toOption.map (Sent.mk t.toOccasion) := by
  unfold attempt
  cases c.requestFor t.candidate <;> rfl

theorem attempt_ended : (c.attempt net limit t).ended = t.instant + c.wait net limit t := by
  unfold attempt wait
  cases c.requestFor t.candidate with
  | error cause => rfl
  | ok request =>
    simp only [Reply.within]
    by_cases inTime : (net.reply t.toOccasion request).delay ≤ limit
    · rw [if_pos inTime, Nat.min_eq_left inTime]
    · rw [if_neg inTime, Nat.min_eq_right (Nat.le_of_not_le inTime)]

/-- A call never waits longer than the limit. -/
theorem wait_le (c : Call) (net : Network) (limit : Nat) (t : Turn) :
    c.wait net limit t ≤ limit := by
  unfold wait
  split
  · exact Nat.min_le_right _ _
  · exact Nat.zero_le _

end ModelGateway.Call

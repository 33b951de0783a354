/-
What one identity goes through.

Seen from one identity, a look at its source says one of four things, and what is kept of
it is an endpoint and a count.  A pod that could not be asked is forgiven so many times
in a row; here it is settled what that comes to over any number of looks.  That a pass
does this, to every identity and to nothing else, is shown elsewhere.
-/
import Mathlib.Data.List.Induction
import ModelGateway.Endpoint.Basic

namespace ModelGateway

/-- What a look at a source says of an identity. -/
inductive Verdict
  /-- The listing failed. -/
  | unseen
  /-- No pod that runs, has an address and can be used goes by it. -/
  | absent
  /-- Its pod is there and could not be asked. -/
  | missed
  | found (e : Endpoint)
deriving DecidableEq, Repr

/-- What is kept of an identity. -/
structure Standing where
  endpoint : Option Endpoint := none
  /-- How often in a row it was missed. -/
  failures : Nat := 0
deriving DecidableEq, Repr

namespace Standing

/-- What is kept of an identity after one more look. -/
def next (limit : Nat) (s : Standing) : Verdict → Standing
  | .unseen => s
  | .absent => {}
  | .missed => ⟨if s.failures + 1 < limit then s.endpoint else none, s.failures + 1⟩
  | .found e => ⟨some e, 0⟩

/-- What is kept of an identity after looks from the beginning. -/
def after (limit : Nat) (verdicts : List Verdict) : Standing := verdicts.foldl (next limit) {}

variable {limit : Nat} {verdicts before since : List Verdict} {v : Verdict} {e : Endpoint}

theorem after_concat :
    after limit (verdicts ++ [v]) = (after limit verdicts).next limit v := by
  rw [after, List.foldl_append, ← after]
  rfl

/-- Looks that see nothing leave everything, and looks that miss add up. -/
theorem foldl_missed (h : ∀ v ∈ since, v = .unseen ∨ v = .missed) (s : Standing) :
    since.foldl (next limit) s =
      ⟨if since.count .missed = 0 ∨ s.failures + since.count .missed < limit then s.endpoint
        else none, s.failures + since.count .missed⟩ := by
  induction since generalizing s with
  | nil => simp
  | cons v rest ih =>
    have hrest : ∀ x ∈ rest, x = .unseen ∨ x = .missed := fun x hx => h x (by simp [hx])
    rw [List.foldl_cons, ih hrest]
    rcases h v (by simp) with hv | hv
    · rw [hv, List.count_cons_of_ne (by simp)]
      rfl
    · have hcount : s.failures + 1 + rest.count .missed = s.failures + (rest.count .missed + 1) := by
        omega
      rw [hv, List.count_cons_self]
      show Standing.mk (if rest.count .missed = 0 ∨ s.failures + 1 + rest.count .missed < limit
        then (if s.failures + 1 < limit then s.endpoint else none) else none) _ = _
      rw [hcount]
      congr 1
      by_cases hin : s.failures + (rest.count .missed + 1) < limit
      · rw [if_pos (Or.inr hin), if_pos (by omega), if_pos (Or.inr hin)]
      · have hout : ¬ (rest.count .missed + 1 = 0 ∨
            s.failures + (rest.count .missed + 1) < limit) := by omega
        rw [if_neg hout]
        split
        · rw [if_neg (by omega)]
        · rfl

/-- What is kept of an identity that was found once and only missed since. -/
theorem after_found (h : ∀ v ∈ since, v = .unseen ∨ v = .missed) :
    after limit (before ++ .found e :: since) =
      ⟨if since.count .missed = 0 ∨ since.count .missed < limit then some e else none,
        since.count .missed⟩ := by
  have hstep : after limit (before ++ .found e :: since) =
      since.foldl (next limit) ⟨some e, 0⟩ := by
    rw [after, List.foldl_append]
    rfl
  rw [hstep, foldl_missed h, Nat.zero_add]

/-- An endpoint is kept exactly if it was found once, every look since that saw anything missed it,
and either none did or they were fewer than the limit. -/
theorem after_endpoint_iff :
    (after limit verdicts).endpoint = some e ↔
      ∃ before since, verdicts = before ++ .found e :: since ∧
        (∀ v ∈ since, v = .unseen ∨ v = .missed) ∧
        (since.count .missed = 0 ∨ since.count .missed < limit) := by
  constructor
  · intro h
    induction verdicts using List.reverseRecOn with
    | nil => simp [after] at h
    | append_singleton verdicts v ih =>
      rw [after_concat] at h
      cases v with
      | unseen =>
        obtain ⟨before, since, rfl, hsince, hcount⟩ := ih h
        refine ⟨before, since ++ [.unseen], by simp, ?_, by simpa using hcount⟩
        intro v hv
        rcases List.mem_append.mp hv with hv | hv
        · exact hsince v hv
        · exact Or.inl (List.mem_singleton.mp hv)
      | absent => simp [next] at h
      | missed =>
        by_cases hlt : (after limit verdicts).failures + 1 < limit
        · have hkept : (after limit verdicts).endpoint = some e := by
            simpa [next, hlt] using h
          obtain ⟨before, since, rfl, hsince, -⟩ := ih hkept
          rw [after_found hsince] at hlt
          refine ⟨before, since ++ [.missed], by simp, ?_, Or.inr (by simpa using hlt)⟩
          intro v hv
          rcases List.mem_append.mp hv with hv | hv
          · exact hsince v hv
          · exact Or.inr (List.mem_singleton.mp hv)
        · simp [next, hlt] at h
      | found d =>
        have hd : d = e := by simpa [next] using h
        exact ⟨verdicts, [], by rw [hd], by simp, by simp⟩
  · intro h
    obtain ⟨before, since, rfl, hsince, hcount⟩ := h
    rw [after_found hsince, if_pos hcount]

end Standing

end ModelGateway

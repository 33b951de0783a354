/-
Several backends for one call.

In sequence, an attempt starts when the one before it has failed, and the first
success ends the call.  In a race all attempts start at one instant, in order, each
running until it first has to wait: one that succeeds without waiting leaves those
behind it unmade.  The success that comes first is kept, the earlier candidate's if
two come together, and the attempts still open are dropped.  Where nothing succeeds,
the failure that came last is the one reported.
-/
import ModelGateway.Fanout.Attempt
import ModelGateway.Gateway.CallError
import ModelGateway.Settings.Basic

namespace ModelGateway

/-- How several attempts went. -/
structure Fanout where
  /-- The requests that were sent, in order. -/
  sent : List Sent
  ended : Nat
  outcome : Except AttemptError Response

/-! ### In sequence -/

/-- Attempt one candidate after another, the first of them on its turn. -/
def sequence (attempt : Turn → Attempt) (t : Turn) : List Endpoint → Fanout
  | [] =>
    let a := attempt t
    { sent := a.sent.toList, ended := a.ended, outcome := a.outcome }
  | next :: rest =>
    let a := attempt t
    match a.outcome with
    | .ok response => { sent := a.sent.toList, ended := a.ended, outcome := .ok response }
    | .error _ =>
      let later := sequence attempt ⟨t.next a.ended, next⟩ rest
      { later with sent := a.sent.toList ++ later.sent }

/-! ### In a race -/

/-- The turns of candidates, all of them at one instant. -/
def lineUp (now : Nat) (candidates : List Endpoint) : List Turn :=
  candidates.mapIdx fun place e => ⟨{ instant := now, place }, e⟩

/-- Whether an attempt that was started at an instant succeeded without waiting. -/
def Attempt.wonAt (now : Nat) (a : Attempt) : Bool := a.ended == now && a.outcome.isOk

/-- The attempts that are started: none behind one that succeeds without waiting. -/
def started (now : Nat) : List Attempt → List Attempt
  | [] => []
  | a :: rest => if a.wonAt now then [a] else a :: started now rest

/-- The attempt that ended first, the earlier of two that ended together. -/
def firstToEnd (a : Attempt) (rest : List Attempt) : Attempt :=
  rest.foldl (fun best b => if b.ended < best.ended then b else best) a

/-- The attempt that ended last, the later of two that ended together. -/
def lastToEnd (a : Attempt) (rest : List Attempt) : Attempt :=
  rest.foldl (fun best b => if best.ended ≤ b.ended then b else best) a

/-- Attempt all candidates at an instant. -/
def race (attempt : Turn → Attempt) (now : Nat) (e : Endpoint) (rest : List Endpoint) : Fanout :=
  let first := attempt ⟨{ instant := now }, e⟩
  let begun := started now ((lineUp now (e :: rest)).map attempt)
  let kept := match begun.filter (·.outcome.isOk) with
    | a :: others => firstToEnd a others
    | [] => lastToEnd first begun.tail
  { sent := begun.filterMap (·.sent), ended := kept.ended, outcome := kept.outcome }

/-! ### As the settings say -/

/-- How a call to its candidates went. -/
structure Dispatched where
  sent : List Sent
  ended : Nat
  answer : Except CallError Response

/-- How long an attempt may take. -/
def FanoutSettings.attemptLimit (s : FanoutSettings) : Nat := s.attemptTimeoutSecs.toNat * 1000

/-- Make a call to its candidates, in the order given. -/
def Call.dispatch (c : Call) (s : FanoutSettings) (net : Network) (now : Nat) :
    List Endpoint → Dispatched
  | [] => { sent := [], ended := now, answer := .error (.modelNotFound c.model) }
  | e :: rest =>
    let attempt := c.attempt net s.attemptLimit
    let run := match s.policy with
      | .sequential => sequence attempt ⟨{ instant := now }, e⟩ rest
      | .race => race attempt now e rest
    { sent := run.sent, ended := run.ended,
      answer := run.outcome.mapError fun last =>
        .exhausted c.model (rest.length + 1) last.message }

end ModelGateway

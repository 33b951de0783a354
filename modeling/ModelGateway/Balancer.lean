/-
Whose turn it is.

Candidates come in registry order.  Under round robin each call for a model starts
one candidate further along that order and wraps around, so the others stay available
behind it.  A turn is only taken when there is a choice: with fewer than two
candidates nothing is counted.  Turns are counted in a machine word, which starts
again at zero when it is full.
-/
import ModelGateway.Text.Basic

namespace ModelGateway

/-- How the first candidate is chosen. -/
inductive Balance
  | inOrder
  | roundRobin
deriving DecidableEq, Repr

/-- How many turns were taken for each model. -/
structure Balancer where
  balance : Balance
  turns : List (String × UInt64) := []
deriving DecidableEq, Repr

namespace Balancer

/-- The turns taken for a model. -/
def turn (b : Balancer) (model : String) : UInt64 :=
  ((b.turns.find? (·.1 == model)).map (·.2)).getD 0

/-- Count one more turn for a model. -/
def countTurn (model : String) : List (String × UInt64) → List (String × UInt64)
  | [] => [(model, 1)]
  | (m, n) :: rest => if m = model then (m, n + 1) :: rest else (m, n) :: countTurn model rest

/-- A list turned to start at an index, taken round. -/
def rotate {α : Type} (xs : List α) (n : Nat) : List α :=
  xs.drop (n % xs.length) ++ xs.take (n % xs.length)

/-- The candidates in the order this call tries them, and the balancer after it. -/
def order {α : Type} (b : Balancer) (model : String) (candidates : List α) : List α × Balancer :=
  if b.balance = .inOrder ∨ candidates.length < 2 then (candidates, b)
  else (rotate candidates (b.turn model).toNat, { b with turns := countTurn model b.turns })

end Balancer

end ModelGateway

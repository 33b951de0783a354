/-
A few at a time.

Jobs are taken up in order, so many at once, and what they come to is taken in the
same order.  A job that is done keeps its place until every job before it is done
too, and only then the next one starts in that place.
-/

namespace ModelGateway

/-- Run jobs from the instants on at which places become free.  `last` is when the jobs before were
all done; `ended` tells when what a job came to was there. -/
def runInPlaces {α : Type} (ended : α → Nat) :
    (free : List Nat) → (last : Nat) → List (Nat → α) → List α
  | start :: free, last, job :: jobs =>
    let result := job start
    let done := max last (ended result)
    result :: runInPlaces ended (free ++ [done]) done jobs
  | _, _, _ => []

/-- Run jobs from an instant on, at most `width` at once. -/
def runWindow {α : Type} (ended : α → Nat) (width now : Nat) (jobs : List (Nat → α)) : List α :=
  runInPlaces ended (List.replicate width now) now jobs

end ModelGateway

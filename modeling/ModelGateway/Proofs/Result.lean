/-
Steps that may fail.

Much of what is read or built here is a chain of steps, each of which may end it with an
error.  Such a chain gives a value exactly if every step does, and otherwise the error of the
first that does not, which is how the proofs take one apart.
-/
import Mathlib.Data.List.Forall2

namespace ModelGateway.Result

variable {α β ε ε' : Type} {x : Except ε α} {f : α → Except ε β} {b : β} {a : α} {e : ε}

theorem ok_bind : Except.ok a >>= f = f a := rfl

theorem bind_eq_ok : x >>= f = .ok b ↔ ∃ a, x = .ok a ∧ f a = .ok b := by
  cases x with
  | error e => simp [bind, Except.bind]
  | ok a => simp [bind, Except.bind]

theorem bind_eq_error : x >>= f = .error e ↔ x = .error e ∨ ∃ a, x = .ok a ∧ f a = .error e := by
  cases x with
  | error e => simp [bind, Except.bind]
  | ok a => simp [bind, Except.bind]

theorem map_eq_ok {g : α → β} : x.map g = .ok b ↔ ∃ a, x = .ok a ∧ g a = b := by
  cases x <;> simp [Except.map]

theorem mapError_eq_ok {g : ε → ε'} : x.mapError g = .ok a ↔ x = .ok a := by
  cases x <;> simp [Except.mapError]

theorem mapError_eq_error {g : ε → ε'} {e' : ε'} :
    x.mapError g = .error e' ↔ ∃ e, x = .error e ∧ g e = e' := by
  cases x <;> simp [Except.mapError]

/-- Steps that all give a value give all their values. -/
theorem mapM_eq_ok {ι : Type} {list : List ι} {f : ι → Except ε α} {g : ι → α}
    (h : ∀ i ∈ list, f i = .ok (g i)) : list.mapM f = .ok (list.map g) := by
  induction list with
  | nil => rfl
  | cons i list ih =>
    rw [List.mapM_cons, h i List.mem_cons_self, ok_bind,
      ih fun j hj => h j (List.mem_cons_of_mem i hj)]
    rfl

/-- Steps that together give values give them one by one. -/
theorem forall₂_of_mapM {ι : Type} {list : List ι} {f : ι → Except ε α} {values : List α}
    (h : list.mapM f = .ok values) : List.Forall₂ (fun i x => f i = .ok x) list values := by
  induction list generalizing values with
  | nil =>
    obtain rfl : [] = values := Except.ok.inj h
    exact .nil
  | cons i list ih =>
    rw [List.mapM_cons, bind_eq_ok] at h
    obtain ⟨x, hx, h⟩ := h
    rw [bind_eq_ok] at h
    obtain ⟨xs, hxs, h⟩ := h
    obtain rfl : x :: xs = values := Except.ok.inj h
    exact .cons hx (ih hxs)

end ModelGateway.Result

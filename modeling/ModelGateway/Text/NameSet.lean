/-
Sets of names.

What a backend serves is a set: its order and repetitions never matter.  It is kept
as an ascending list without repetitions, so two sets with the same members are the
same value.
-/
import ModelGateway.Text.Basic

namespace ModelGateway

/-- Insert a name into an ascending list, unless it is there. -/
def insertName (name : String) : List String → List String
  | [] => [name]
  | n :: ns =>
    if name < n then name :: n :: ns
    else if name = n then n :: ns
    else n :: insertName name ns

theorem mem_insertName {name x : String} {ns : List String} :
    x ∈ insertName name ns ↔ x = name ∨ x ∈ ns := by
  induction ns with
  | nil => simp [insertName]
  | cons n ns ih =>
    unfold insertName
    split
    · simp
    · split
      · next h => subst h; simp
      · simp only [List.mem_cons, ih]
        constructor
        · rintro (h | h | h) <;> simp [h]
        · rintro (h | h | h) <;> simp [h]

theorem ascending_insertName {name : String} {ns : List String}
    (h : ns.Pairwise (· < ·)) : (insertName name ns).Pairwise (· < ·) := by
  induction ns with
  | nil => simp [insertName]
  | cons n ns ih =>
    obtain ⟨hn, hns⟩ := List.pairwise_cons.mp h
    unfold insertName
    split
    · next hlt =>
      refine List.pairwise_cons.mpr ⟨fun x hx => ?_, h⟩
      rcases List.mem_cons.mp hx with rfl | hx
      · exact hlt
      · exact String.lt_trans hlt (hn x hx)
    · split
      · exact h
      · next hlt hne =>
        refine List.pairwise_cons.mpr ⟨fun x hx => ?_, ih hns⟩
        rcases mem_insertName.mp hx with rfl | hx
        · exact Std.lt_of_le_of_ne (String.not_lt.mp hlt) (Ne.symm hne)
        · exact hn x hx

/-- A set of names. -/
structure NameSet where
  toList : List String := []
  ascending : toList.Pairwise (· < ·) := by simp
deriving DecidableEq, Repr

namespace NameSet

/-- The set without members. -/
def empty : NameSet := {}

/-- Add a name. -/
def insert (s : NameSet) (name : String) : NameSet :=
  ⟨insertName name s.toList, ascending_insertName s.ascending⟩

/-- The set of the names in a list. -/
def ofList (names : List String) : NameSet := names.foldl insert empty

instance : Membership String NameSet := ⟨fun s name => name ∈ s.toList⟩

instance (name : String) (s : NameSet) : Decidable (name ∈ s) :=
  inferInstanceAs (Decidable (name ∈ s.toList))

/-- Whether a set has no members. -/
def isEmpty (s : NameSet) : Bool := s.toList.isEmpty

theorem mem_insert {s : NameSet} {name x : String} : x ∈ s.insert name ↔ x = name ∨ x ∈ s :=
  mem_insertName

theorem mem_ofList {names : List String} {x : String} : x ∈ ofList names ↔ x ∈ names := by
  have h : ∀ s : NameSet, x ∈ names.foldl insert s ↔ x ∈ s ∨ x ∈ names := by
    induction names with
    | nil => intro s; simp
    | cons n ns ih =>
      intro s
      rw [List.foldl_cons, ih, mem_insert, List.mem_cons]
      constructor
      · rintro ((h | h) | h) <;> simp [h]
      · rintro (h | h | h) <;> simp [h]
  rw [ofList, h]
  exact ⟨fun h => h.resolve_left (List.not_mem_nil (a := x)), Or.inr⟩

end NameSet

end ModelGateway

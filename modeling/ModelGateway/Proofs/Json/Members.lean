/-
The members of an object.

An object keeps its members in order of their names, each name once, so it does not depend
on the order they were given in.  Of two members of one name the later is kept.  An object
that was put in order is put in order no further.
-/
import Mathlib.Data.List.Perm.Basic
import Mathlib.Data.String.Basic
import ModelGateway.Json.Basic

namespace ModelGateway.Json

variable {name key : String} {v : Json} {members acc : List (String × Json)}

/-- The members of an object that is given some members. -/
def sorted (members : List (String × Json)) : List (String × Json) :=
  members.foldl (fun acc (n, v) => insertMember n v acc) []

theorem ofMembers_eq (members : List (String × Json)) :
    ofMembers members = .object (sorted members) := rfl

/-! ### Finding a member -/

theorem find?_insertMember :
    (insertMember name v members).find? (·.1 == key) =
      if name = key then some (name, v) else members.find? (·.1 == key) := by
  induction members with
  | nil =>
    rw [insertMember]
    by_cases h : name = key <;> simp [h]
  | cons m members ih =>
    rw [insertMember]
    by_cases hkey : name = key
    · subst hkey
      split
      · simp
      · split
        · simp
        · next hne =>
          have hother : ¬ m.1 = name := fun h => hne h.symm
          simp [hother, ih]
    · split
      · simp [hkey]
      · split
        · next heq => simp [hkey, ← heq]
        · simp [hkey, ih, List.find?_cons]

/-- Of the members of one name the last is kept. -/
theorem member?_ofMembers {before behind : List (String × Json)}
    (h : ∀ m ∈ behind, m.1 ≠ name) :
    (ofMembers (before ++ (name, v) :: behind)).member? name = some v := by
  have hrun : ∀ (behind acc : List (String × Json)), (∀ m ∈ behind, m.1 ≠ name) →
      (behind.foldl (fun acc (n, v) => insertMember n v acc) acc).find? (·.1 == name) =
        acc.find? (·.1 == name) := by
    intro behind
    induction behind with
    | nil => intro acc _; rfl
    | cons m behind ih =>
      intro acc hbehind
      rw [List.foldl_cons, ih _ fun k hk => hbehind k (List.mem_cons_of_mem m hk),
        find?_insertMember, if_neg (hbehind m List.mem_cons_self)]
  rw [ofMembers, member?, List.foldl_append, List.foldl_cons, hrun _ _ h, find?_insertMember,
    if_pos rfl]
  rfl

/-! ### Order -/

/-- The names of some members increase. -/
def Sorted (members : List (String × Json)) : Prop := members.Pairwise (·.1 < ·.1)

theorem mem_insertMember {m : String × Json} (h : m ∈ insertMember name v members) :
    m = (name, v) ∨ m ∈ members := by
  induction members with
  | nil => simpa [insertMember] using h
  | cons k members ih =>
    rw [insertMember] at h
    split at h
    · simpa using h
    · split at h
      · rcases List.mem_cons.mp h with h | h
        · exact Or.inl h
        · exact Or.inr (List.mem_cons_of_mem k h)
      · rcases List.mem_cons.mp h with h | h
        · exact Or.inr (h ▸ List.mem_cons_self)
        · exact (ih h).imp_right (List.mem_cons_of_mem k)

theorem sorted_insertMember (h : Sorted members) : Sorted (insertMember name v members) := by
  induction members with
  | nil => simp [insertMember, Sorted]
  | cons k members ih =>
    obtain ⟨hk, hrest⟩ := List.pairwise_cons.mp h
    rw [insertMember]
    split
    · next hlt =>
      refine List.pairwise_cons.mpr ⟨fun m hm => ?_, h⟩
      rcases List.mem_cons.mp hm with rfl | hm
      · exact hlt
      · exact lt_trans hlt (hk m hm)
    · next hnlt =>
      split
      · next heq => exact List.pairwise_cons.mpr ⟨fun m hm => heq ▸ hk m hm, hrest⟩
      · next hne =>
        refine List.pairwise_cons.mpr ⟨fun m hm => ?_, ih hrest⟩
        rcases mem_insertMember hm with rfl | hm
        · exact lt_of_le_of_ne (not_lt.mp hnlt) (Ne.symm hne)
        · exact hk m hm

theorem insertMember_perm (h : ∀ m ∈ members, m.1 ≠ name) :
    (insertMember name v members).Perm ((name, v) :: members) := by
  induction members with
  | nil => exact .refl _
  | cons k members ih =>
    rw [insertMember]
    split
    · exact .refl _
    · split
      · next heq => exact absurd heq.symm (h k List.mem_cons_self)
      · exact ((ih fun m hm => h m (List.mem_cons_of_mem k hm)).cons k).trans (.swap _ _ _)

theorem insertMember_append (h : ∀ m ∈ members, m.1 < name) :
    insertMember name v members = members ++ [(name, v)] := by
  induction members with
  | nil => rfl
  | cons k members ih =>
    have hk := h k List.mem_cons_self
    rw [insertMember, if_neg (not_lt.mpr hk.le), if_neg hk.ne',
      ih fun m hm => h m (List.mem_cons_of_mem k hm), List.cons_append]

/-! What one member does to the members so far, every member does. -/

theorem sorted_sorted (members : List (String × Json)) : Sorted (sorted members) := by
  have hrun : ∀ (members acc : List (String × Json)), Sorted acc →
      Sorted (members.foldl (fun acc (n, v) => insertMember n v acc) acc) := by
    intro members
    induction members with
    | nil => exact fun acc h => h
    | cons m members ih => exact fun acc h => ih _ (sorted_insertMember h)
  exact hrun members [] .nil

theorem mem_sorted {m : String × Json} (h : m ∈ sorted members) : m ∈ members := by
  have hrun : ∀ members acc : List (String × Json),
      m ∈ members.foldl (fun acc (n, v) => insertMember n v acc) acc → m ∈ acc ∨ m ∈ members := by
    intro members
    induction members with
    | nil => exact fun acc h => Or.inl h
    | cons k members ih =>
      intro acc h
      rcases ih _ h with h | h
      · refine (mem_insertMember h).symm.imp_right fun heq => ?_
        exact List.mem_cons.mpr (Or.inl heq)
      · exact Or.inr (List.mem_cons_of_mem k h)
  exact (hrun members [] h).resolve_left List.not_mem_nil

/-- Members of different names are all kept. -/
theorem sorted_perm (h : members.Pairwise (·.1 ≠ ·.1)) : (sorted members).Perm members := by
  have hrun : ∀ members acc : List (String × Json), (acc ++ members).Pairwise (·.1 ≠ ·.1) →
      (members.foldl (fun acc (n, v) => insertMember n v acc) acc).Perm (acc ++ members) := by
    intro members
    induction members with
    | nil => exact fun acc _ => by rw [List.append_nil]; exact .refl _
    | cons k members ih =>
      intro acc hacc
      have hfresh : ∀ m ∈ acc, m.1 ≠ k.1 := fun m hm =>
        (List.pairwise_append.mp hacc).2.2 m hm k List.mem_cons_self
      have hinsert : (insertMember k.1 k.2 acc ++ members).Perm (acc ++ k :: members) :=
        ((insertMember_perm hfresh).append_right members).trans List.perm_middle.symm
      exact (ih _ ((hinsert.pairwise_iff fun h => h.symm).mpr hacc)).trans hinsert
  exact hrun members [] h

theorem sorted_eq_self (h : Sorted members) : sorted members = members := by
  have hrun : ∀ members acc : List (String × Json), Sorted (acc ++ members) →
      members.foldl (fun acc (n, v) => insertMember n v acc) acc = acc ++ members := by
    intro members
    induction members with
    | nil => exact fun acc _ => (List.append_nil acc).symm
    | cons k members ih =>
      intro acc hacc
      have hlast : ∀ m ∈ acc, m.1 < k.1 := fun m hm =>
        (List.pairwise_append.mp hacc).2.2 m hm k List.mem_cons_self
      have hinsert : insertMember k.1 k.2 acc = acc ++ [k] := insertMember_append hlast
      rw [List.foldl_cons]
      show members.foldl _ (insertMember k.1 k.2 acc) = _
      rw [hinsert, ih _ (by simpa using hacc), List.append_assoc, List.singleton_append]
  exact hrun members [] h

theorem member?_ofMembers_eq_none (h : ∀ m ∈ members, m.1 ≠ name) :
    (ofMembers members).member? name = none := by
  rw [ofMembers_eq, member?, Option.map_eq_none_iff]
  refine List.find?_eq_none.mpr fun m hm hname => h m (mem_sorted hm) ?_
  simpa using hname

end ModelGateway.Json

/-
Lists made from lists.

Much of what the gateway keeps is a list made from another, entry by entry.  Either each
entry of one stands for the entry of the other in the same place, or entries are put together
from others under the same key and some are left out.  Sets are kept as ascending lists, and
their members say which list it is.
-/
import Mathlib.Data.List.Forall2
import Mathlib.Data.List.Nodup

/-! ### Entries in the same places -/

namespace ModelGateway.Related

variable {α β : Type} {R : α → β → Prop} {as : List α} {bs : List β}

theorem mem_right (h : List.Forall₂ R as bs) {b : β} (hb : b ∈ bs) : ∃ a ∈ as, R a b := by
  induction h with
  | nil => simp at hb
  | cons hab _ ih =>
    rcases List.mem_cons.mp hb with rfl | hb
    · exact ⟨_, List.mem_cons_self, hab⟩
    · obtain ⟨a, ha, hR⟩ := ih hb
      exact ⟨a, List.mem_cons_of_mem _ ha, hR⟩

theorem mem_left (h : List.Forall₂ R as bs) {a : α} (ha : a ∈ as) : ∃ b ∈ bs, R a b :=
  mem_right h.flip ha

theorem map_eq {γ : Type} {f : α → γ} {g : β → γ}
    (h : List.Forall₂ (fun a b => g b = f a) as bs) : bs.map g = as.map f := by
  induction h with
  | nil => rfl
  | cons hab _ ih => rw [List.map_cons, List.map_cons, hab, ih]

/-- What is made of each entry with something of its own is in the same place. -/
theorem zip_map {γ : Type} {others : List γ} {f : α × γ → β} (h : as.length = others.length)
    (hR : ∀ a c, R a (f (a, c))) : List.Forall₂ R as ((as.zip others).map f) := by
  induction as generalizing others with
  | nil => exact .nil
  | cons a rest ih =>
    cases others with
    | nil => simp at h
    | cons c others => exact .cons (hR a c) (ih (by simpa using h))

/-- What is made of each entry and can be read back, can be read back as a whole. -/
theorem mapM_map_of_read {make : α → β} {read : β → Option α}
    (h : ∀ a ∈ as, read (make a) = some a) : (as.map make).mapM read = some as := by
  induction as with
  | nil => rfl
  | cons a rest ih =>
    rw [List.map_cons, List.mapM_cons, h a (by simp), ih fun x hx => h x (by simp [hx])]
    rfl

end ModelGateway.Related

/-! ### Entries under the same key

With keys that do not repeat, the entry under a key is the one made from the entry that
had it.
-/

namespace ModelGateway.Keyed

variable {α β κ : Type} {key : α → κ} {key' : β → κ} {make : α → Option β} {list : List α}

theorem nodup_filterMap (hkey : ∀ a ∈ list, ∀ b, make a = some b → key' b = key a)
    (h : (list.map key).Nodup) : ((list.filterMap make).map key').Nodup := by
  have hsub : ((list.filterMap make).map key').Sublist (list.map key) := by
    clear h
    induction list with
    | nil => simp
    | cons a rest ih =>
      have hrest := ih fun x hx => hkey x (List.mem_cons_of_mem a hx)
      cases hmade : make a with
      | none =>
        rw [List.filterMap_cons_none hmade]
        exact hrest.cons _
      | some b =>
        rw [List.filterMap_cons_some hmade, List.map_cons, List.map_cons,
          hkey a List.mem_cons_self b hmade]
        exact hrest.cons_cons _
  exact h.sublist hsub

variable [BEq κ] [LawfulBEq κ]

theorem find?_fresh {k : κ} (h : k ∉ list.map key) : list.find? (key · == k) = none := by
  refine List.find?_eq_none.mpr fun x hx hxk => h ?_
  rw [← eq_of_beq hxk]
  exact List.mem_map_of_mem hx

theorem find?_filterMap (hkey : ∀ a ∈ list, ∀ b, make a = some b → key' b = key a)
    (h : (list.map key).Nodup) (k : κ) :
    (list.filterMap make).find? (key' · == k) = (list.find? (key · == k)).bind make := by
  induction list with
  | nil => rfl
  | cons a rest ih =>
    obtain ⟨hfresh, hrest⟩ := List.nodup_cons.mp h
    have ih := ih (fun x hx => hkey x (List.mem_cons_of_mem a hx)) hrest
    have hhead := hkey a List.mem_cons_self
    by_cases hk : key a = k
    · have hgone : rest.find? (key · == k) = none := find?_fresh (hk ▸ hfresh)
      rw [List.find?_cons_of_pos (by simpa using hk)]
      cases hmade : make a with
      | none =>
        rw [List.filterMap_cons_none hmade, ih, hgone, Option.bind_some, hmade]
        rfl
      | some b =>
        rw [List.filterMap_cons_some hmade,
          List.find?_cons_of_pos (by simpa using (hhead b hmade).trans hk), Option.bind_some, hmade]
    · rw [List.find?_cons_of_neg (by simpa using hk)]
      cases hmade : make a with
      | none => rw [List.filterMap_cons_none hmade, ih]
      | some b =>
        have hb : ¬ key' b = k := fun hc => hk ((hhead b hmade).symm.trans hc)
        rw [List.filterMap_cons_some hmade, List.find?_cons_of_neg (by simpa using hb), ih]

theorem find?_of_mem (h : (list.map key).Nodup) {a : α} (ha : a ∈ list) :
    list.find? (key · == key a) = some a := by
  cases hfind : list.find? (key · == key a) with
  | none => simpa using List.find?_eq_none.mp hfind a ha
  | some b =>
    have hb : key b = key a := by simpa using List.find?_some hfind
    rw [List.inj_on_of_nodup_map h (List.mem_of_find?_eq_some hfind) ha hb]

end ModelGateway.Keyed

/-! ### Ascending lists -/

namespace ModelGateway

/-- An ascending list repeats nothing. -/
theorem nodup_of_ascending {α : Type} {r : α → α → Prop} (irrefl : ∀ a, ¬ r a a) {xs : List α}
    (h : xs.Pairwise r) : xs.Nodup := by
  refine h.imp ?_
  intro a b hab heq
  exact irrefl a (heq ▸ hab)

/-- Two ascending lists with the same members are the same list. -/
theorem eq_of_ascending {α : Type} {r : α → α → Prop} (irrefl : ∀ a, ¬ r a a)
    (asymm : ∀ {a b}, r a b → ¬ r b a) {xs ys : List α} (hx : xs.Pairwise r)
    (hy : ys.Pairwise r) (h : ∀ a, a ∈ xs ↔ a ∈ ys) : xs = ys := by
  have hperm : xs.Perm ys := (List.perm_ext_iff_of_nodup (nodup_of_ascending irrefl hx)
    (nodup_of_ascending irrefl hy)).mpr h
  exact hperm.eq_of_pairwise (fun a b _ _ hab hba => absurd hba (asymm hab)) hx hy

/-! ### Entries read one by one -/

/-- What is read at the first places of a list, which has so many, are its first entries. -/
theorem map_getD_range {α : Type} {xs : List α} {n : Nat} (h : n ≤ xs.length) (missing : α) :
    (List.range n).map (fun i => xs.getD i missing) = xs.take n := by
  refine List.ext_getElem (by simp [h]) fun i hi _ => ?_
  have hplace : i < xs.length := by
    rw [List.length_map, List.length_range] at hi
    omega
  rw [List.getElem_map, List.getElem_range, List.getElem_take, List.getD_eq_getElem?_getD,
    List.getElem?_eq_getElem hplace, Option.getD_some]

end ModelGateway

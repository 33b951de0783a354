/-
What the index holds.

The index is edited position by position and model by model.  What it means is a
relation: a position is *entered* under a model.  Entering adds one pair to that
relation and striking takes one out, so what a whole set of models does to it follows
by walking the set.

The list behind the relation is kept *tidy*: models ascend, positions ascend, and no
bucket is empty.  Striking relies on it, because it takes out one occurrence of a
position in the first bucket of a model; and a tidy list is determined by its
relation, which is what lets a look-up be compared with a filter.
-/
import ModelGateway.Proofs.Lists
import ModelGateway.Registry.Reconcile

namespace ModelGateway.Registry

/-- A position stands under a model. -/
def Entered (index : List Bucket) (m : String) (p : Nat) : Prop :=
  ∃ b ∈ index, b.model = m ∧ p ∈ b.positions

/-- Models ascend, positions ascend, and no bucket is empty. -/
structure Tidy (index : List Bucket) : Prop where
  models : index.Pairwise (·.model < ·.model)
  positions : ∀ b ∈ index, b.positions.Pairwise (· < ·)
  inhabited : ∀ b ∈ index, b.positions ≠ []

/-! ### One position in one bucket -/

theorem mem_insertPosition {p q : Nat} {qs : List Nat} :
    q ∈ insertPosition p qs ↔ q = p ∨ q ∈ qs := by
  induction qs with
  | nil => simp [insertPosition]
  | cons x qs ih =>
    unfold insertPosition
    split
    · simp
    · split
      · next h => subst h; simp
      · simp only [List.mem_cons, ih]
        constructor
        · rintro (h | h | h) <;> simp [h]
        · rintro (h | h | h) <;> simp [h]

theorem ascending_insertPosition {p : Nat} {qs : List Nat} (h : qs.Pairwise (· < ·)) :
    (insertPosition p qs).Pairwise (· < ·) := by
  induction qs with
  | nil => simp [insertPosition]
  | cons x qs ih =>
    obtain ⟨hx, hqs⟩ := List.pairwise_cons.mp h
    unfold insertPosition
    split
    · next hlt =>
      refine List.pairwise_cons.mpr ⟨fun q hq => ?_, h⟩
      rcases List.mem_cons.mp hq with rfl | hq
      · exact hlt
      · exact Nat.lt_trans hlt (hx q hq)
    · split
      · exact h
      · refine List.pairwise_cons.mpr ⟨fun q hq => ?_, ih hqs⟩
        rcases mem_insertPosition.mp hq with rfl | hq
        · omega
        · exact hx q hq

/-! ### One position under one model -/

variable {index : List Bucket} {m m' : String} {p q : Nat}

theorem entered_cons {b : Bucket} :
    Entered (b :: index) m p ↔ (b.model = m ∧ p ∈ b.positions) ∨ Entered index m p := by
  simp [Entered]

theorem tidy_nil : Tidy [] := ⟨by simp, by simp, by simp⟩

theorem Tidy.tail {b : Bucket} (h : Tidy (b :: index)) : Tidy index where
  models := (List.pairwise_cons.mp h.models).2
  positions := fun c hc => h.positions c (List.mem_cons_of_mem _ hc)
  inhabited := fun c hc => h.inhabited c (List.mem_cons_of_mem _ hc)

/-- A bucket in front of a tidy index, if its model comes first. -/
theorem Tidy.cons {b : Bucket} (h : Tidy index) (hm : ∀ c ∈ index, b.model < c.model)
    (hp : b.positions.Pairwise (· < ·)) (hb : b.positions ≠ []) : Tidy (b :: index) where
  models := List.pairwise_cons.mpr ⟨hm, h.models⟩
  positions := by
    intro c hc
    rcases List.mem_cons.mp hc with rfl | hc
    · exact hp
    · exact h.positions c hc
  inhabited := by
    intro c hc
    rcases List.mem_cons.mp hc with rfl | hc
    · exact hb
    · exact h.inhabited c hc

/-- Behind its first bucket, a tidy index has nothing of that bucket's model. -/
theorem Tidy.not_entered_tail {b : Bucket} (h : Tidy (b :: index)) :
    ¬ Entered index b.model p := by
  intro hin
  obtain ⟨c, hc, hmodel, -⟩ := hin
  have hlt := (List.pairwise_cons.mp h.models).1 c hc
  exact String.lt_irrefl _ (hmodel ▸ hlt)

/-- The positions of a bucket are those that stand under its model. -/
theorem Tidy.mem_positions {b : Bucket} (h : Tidy index) (hb : b ∈ index) :
    p ∈ b.positions ↔ Entered index b.model p := by
  refine ⟨fun hp => ⟨b, hb, rfl, hp⟩, ?_⟩
  intro hin
  obtain ⟨c, hc, hmodel, hp⟩ := hin
  have hmodels : (index.map (·.model)).Nodup :=
    nodup_of_ascending String.lt_irrefl (List.pairwise_map.mpr h.models)
  rw [← List.inj_on_of_nodup_map hmodels hc hb hmodel]
  exact hp

/-- A tidy index is determined by what is entered. -/
theorem Tidy.eq_of_entered {index' : List Bucket} (h : Tidy index) (h' : Tidy index')
    (hsame : ∀ m p, Entered index m p ↔ Entered index' m p) : index = index' := by
  have hsub : ∀ {i j : List Bucket}, Tidy i → Tidy j → (∀ m p, Entered i m p ↔ Entered j m p) →
      ∀ b ∈ i, b ∈ j := by
    intro i j hi hj hij b hb
    obtain ⟨p, hp⟩ := List.exists_mem_of_ne_nil _ (hi.inhabited b hb)
    obtain ⟨c, hc, hmodel, -⟩ := (hij b.model p).mp ⟨b, hb, rfl, hp⟩
    have hpositions : b.positions = c.positions := by
      refine eq_of_ascending Nat.lt_irrefl (fun hab hba => Nat.lt_asymm hab hba)
        (hi.positions b hb) (hj.positions c hc) fun q => ?_
      rw [hi.mem_positions hb, hij, ← hmodel, hj.mem_positions hc]
    have hbc : b = c := by
      cases b
      cases c
      exact congr (congrArg Bucket.mk hmodel.symm) hpositions
    exact hbc ▸ hc
  refine eq_of_ascending (fun b : Bucket => String.lt_irrefl b.model)
    (fun hab hba => String.lt_asymm hab hba) h.models h'.models fun b => ?_
  exact ⟨hsub h h' hsame b, hsub h' h (fun m p => (hsame m p).symm) b⟩

/-- Entering gives no model but the entered one. -/
theorem model_of_mem_enter {c : Bucket} (h : c ∈ enter p index m) :
    c.model = m ∨ ∃ b ∈ index, c.model = b.model := by
  induction index with
  | nil =>
    rw [enter, List.mem_singleton] at h
    exact Or.inl (by rw [h])
  | cons b bs ih =>
    unfold enter at h
    split at h
    · rcases List.mem_cons.mp h with rfl | h
      · exact Or.inl rfl
      · exact Or.inr ⟨c, h, rfl⟩
    · split at h
      · rcases List.mem_cons.mp h with rfl | h
        · exact Or.inr ⟨b, by simp, rfl⟩
        · exact Or.inr ⟨c, by simp [h], rfl⟩
      · rcases List.mem_cons.mp h with rfl | h
        · exact Or.inr ⟨c, by simp, rfl⟩
        · rcases ih h with hm | ⟨d, hd, hm⟩
          · exact Or.inl hm
          · exact Or.inr ⟨d, by simp [hd], hm⟩

theorem entered_enter :
    Entered (enter p index m) m' q ↔ (m' = m ∧ q = p) ∨ Entered index m' q := by
  induction index with
  | nil => simp [enter, entered_cons, eq_comm]
  | cons b bs ih =>
    unfold enter
    split
    · simp [entered_cons, eq_comm]
    · split
      · next h =>
        simp only [entered_cons, mem_insertPosition, ← h]
        constructor
        · intro hin
          rcases hin with ⟨rfl, rfl | hq⟩ | hq
          · exact Or.inl ⟨rfl, rfl⟩
          · exact Or.inr (Or.inl ⟨rfl, hq⟩)
          · exact Or.inr (Or.inr hq)
        · intro hin
          rcases hin with ⟨rfl, rfl⟩ | ⟨rfl, hq⟩ | hq
          · exact Or.inl ⟨rfl, Or.inl rfl⟩
          · exact Or.inl ⟨rfl, Or.inr hq⟩
          · exact Or.inr hq
      · simp only [entered_cons, ih]
        exact or_left_comm

theorem tidy_enter (h : Tidy index) : Tidy (enter p index m) := by
  induction index with
  | nil => exact tidy_nil.cons (by simp) (by simp) (by simp)
  | cons b bs ih =>
    have hfirst := (List.pairwise_cons.mp h.models).1
    unfold enter
    split
    · next hlt =>
      refine h.cons (fun c hc => ?_) (by simp) (by simp)
      rcases List.mem_cons.mp hc with rfl | hc
      · exact hlt
      · exact String.lt_trans hlt (hfirst c hc)
    · split
      · refine h.tail.cons hfirst (ascending_insertPosition (h.positions b (by simp))) ?_
        intro hnil
        have hp : p ∈ insertPosition p b.positions := mem_insertPosition.mpr (Or.inl rfl)
        rw [show insertPosition p b.positions = [] from hnil] at hp
        simp at hp
      · next hlt hne =>
        refine (ih h.tail).cons (fun c hc => ?_) (h.positions b (by simp))
          (h.inhabited b (by simp))
        rcases model_of_mem_enter hc with hm | ⟨d, hd, hm⟩
        · rw [hm]
          exact Std.lt_of_le_of_ne (String.not_lt.mp hlt) (Ne.symm hne)
        · rw [hm]
          exact hfirst d hd

/-- Striking keeps buckets or makes them smaller. -/
theorem model_of_mem_strike {c : Bucket} (h : c ∈ strike p index m) :
    ∃ b ∈ index, c.model = b.model := by
  induction index with
  | nil => simp [strike] at h
  | cons b bs ih =>
    unfold strike at h
    split at h
    · split at h
      · exact ⟨c, by simp [h], rfl⟩
      · rcases List.mem_cons.mp h with rfl | h
        · exact ⟨b, by simp, rfl⟩
        · exact ⟨c, by simp [h], rfl⟩
    · rcases List.mem_cons.mp h with rfl | h
      · exact ⟨c, by simp, rfl⟩
      · obtain ⟨d, hd, hm⟩ := ih h
        exact ⟨d, by simp [hd], hm⟩

/-- The positions that a strike leaves in a bucket. -/
theorem mem_erase_ascending {qs : List Nat} (h : qs.Pairwise (· < ·)) :
    q ∈ qs.erase p ↔ q ∈ qs ∧ q ≠ p := by
  rw [(nodup_of_ascending Nat.lt_irrefl h).mem_erase_iff, and_comm]

theorem entered_strike (h : Tidy index) :
    Entered (strike p index m) m' q ↔ Entered index m' q ∧ ¬ (m' = m ∧ q = p) := by
  induction index with
  | nil => simp [strike, Entered]
  | cons b bs ih =>
    have herase := mem_erase_ascending (p := p) (q := q) (h.positions b (by simp))
    unfold strike
    split
    · next hm =>
      -- Only this bucket can hold the position, since no other has its model.
      have htail : Entered bs m' q → ¬ (m' = m ∧ q = p) := by
        rintro hq ⟨rfl, -⟩
        exact h.not_entered_tail (hm ▸ hq)
      have hhead : q ∈ b.positions.erase p ∧ b.model = m' ↔
          (b.model = m' ∧ q ∈ b.positions) ∧ ¬ (m' = m ∧ q = p) := by
        rw [herase]
        constructor
        · intro hin
          obtain ⟨⟨hq, hne⟩, hm'⟩ := hin
          exact ⟨⟨hm', hq⟩, fun hc => hne hc.2⟩
        · intro hin
          obtain ⟨⟨hm', hq⟩, hne⟩ := hin
          exact ⟨⟨hq, fun hc => hne ⟨hm' ▸ hm, hc⟩⟩, hm'⟩
      have hsplit : (q ∈ b.positions.erase p ∧ b.model = m') ∨ Entered bs m' q ↔
          Entered (b :: bs) m' q ∧ ¬ (m' = m ∧ q = p) := by
        rw [hhead, entered_cons]
        constructor
        · intro hin
          rcases hin with ⟨hq, hne⟩ | hq
          · exact ⟨Or.inl hq, hne⟩
          · exact ⟨Or.inr hq, htail hq⟩
        · intro hin
          rcases hin with ⟨hq | hq, hne⟩
          · exact Or.inl ⟨hq, hne⟩
          · exact Or.inr hq
      split
      · next hnil =>
        rw [← hsplit, hnil]
        simp
      · next hkept =>
        rw [← hsplit, entered_cons, and_comm]
    · next hm =>
      rw [entered_cons, ih h.tail, entered_cons]
      constructor
      · intro hin
        rcases hin with ⟨rfl, hq⟩ | ⟨hq, hne⟩
        · exact ⟨Or.inl ⟨rfl, hq⟩, fun hc => hm hc.1⟩
        · exact ⟨Or.inr hq, hne⟩
      · intro hin
        rcases hin with ⟨hq | hq, hne⟩
        · exact Or.inl hq
        · exact Or.inr ⟨hq, hne⟩

theorem tidy_strike (h : Tidy index) : Tidy (strike p index m) := by
  induction index with
  | nil => exact tidy_nil
  | cons b bs ih =>
    have hfirst := (List.pairwise_cons.mp h.models).1
    unfold strike
    split
    · split
      · exact h.tail
      · next hkept =>
        refine h.tail.cons hfirst ?_ hkept
        exact (h.positions b (by simp)).sublist List.erase_sublist
    · refine (ih h.tail).cons (fun c hc => ?_) (h.positions b (by simp)) (h.inhabited b (by simp))
      obtain ⟨d, hd, hm⟩ := model_of_mem_strike hc
      rw [hm]
      exact hfirst d hd

/-! ### One position under a set of models -/

theorem tidy_enterAll {e : Endpoint} (h : Tidy index) : Tidy (enterAll p e index) := by
  unfold enterAll
  induction e.models.toList generalizing index with
  | nil => exact h
  | cons m ms ih => exact ih (tidy_enter h)

theorem tidy_strikeAll {e : Endpoint} (h : Tidy index) : Tidy (strikeAll p e index) := by
  unfold strikeAll
  induction e.models.toList generalizing index with
  | nil => exact h
  | cons m ms ih => exact ih (tidy_strike h)

theorem entered_enterAll {e : Endpoint} :
    Entered (enterAll p e index) m q ↔ (m ∈ e.models ∧ q = p) ∨ Entered index m q := by
  show Entered (e.models.toList.foldl (enter p) index) m q ↔
    (m ∈ e.models.toList ∧ q = p) ∨ Entered index m q
  induction e.models.toList generalizing index with
  | nil => simp
  | cons x ms ih =>
    rw [List.foldl_cons, ih, entered_enter, List.mem_cons]
    constructor
    · intro hin
      rcases hin with ⟨hm, hq⟩ | ⟨hm, hq⟩ | hq
      · exact Or.inl ⟨Or.inr hm, hq⟩
      · exact Or.inl ⟨Or.inl hm, hq⟩
      · exact Or.inr hq
    · intro hin
      rcases hin with ⟨hm | hm, hq⟩ | hq
      · exact Or.inr (Or.inl ⟨hm, hq⟩)
      · exact Or.inl ⟨hm, hq⟩
      · exact Or.inr (Or.inr hq)

theorem entered_strikeAll {e : Endpoint} (h : Tidy index) :
    Entered (strikeAll p e index) m q ↔ Entered index m q ∧ ¬ (m ∈ e.models ∧ q = p) := by
  show Entered (e.models.toList.foldl (strike p) index) m q ↔
    Entered index m q ∧ ¬ (m ∈ e.models.toList ∧ q = p)
  induction e.models.toList generalizing index with
  | nil => simp
  | cons x ms ih =>
    rw [List.foldl_cons, ih (tidy_strike h), entered_strike h, List.mem_cons]
    constructor
    · intro hin
      obtain ⟨⟨hq, hx⟩, hms⟩ := hin
      refine ⟨hq, ?_⟩
      intro hin
      rcases hin with ⟨hm | hm, hp⟩
      · exact hx ⟨hm, hp⟩
      · exact hms ⟨hm, hp⟩
    · intro hin
      obtain ⟨hq, hne⟩ := hin
      exact ⟨⟨hq, fun hc => hne ⟨Or.inl hc.1, hc.2⟩⟩, fun hc => hne ⟨Or.inr hc.1, hc.2⟩⟩

end ModelGateway.Registry

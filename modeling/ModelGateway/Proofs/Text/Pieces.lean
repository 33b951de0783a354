/-
Cutting a text and cutting off its end.

A text is cut at every separator, so a piece holds none, and a text that is put
together from pieces with separators between them comes apart into the same pieces.
Cut once, it comes apart at the first separator.  What is cut off at the end is decided
by the last character that stays.
-/
import ModelGateway.Text.Basic

namespace ModelGateway.Text

variable {α : Type} {p : Char → Bool} {cs a b : List Char} {c : Char}

/-! ### Pieces -/

theorem splitOn_ne_nil (p : Char → Bool) (cs : List Char) : splitOn p cs ≠ [] := by
  cases cs with
  | nil => simp [splitOn]
  | cons c cs =>
    unfold splitOn
    split
    · simp
    · split <;> simp

/-- A character that separates nothing goes to the front of the first piece. -/
theorem splitOn_cons (cs : List Char) (h : p c = false) :
    ∃ piece more, splitOn p cs = piece :: more ∧ splitOn p (c :: cs) = (c :: piece) :: more := by
  cases hcs : splitOn p cs with
  | nil => exact absurd hcs (splitOn_ne_nil p cs)
  | cons piece more =>
    refine ⟨piece, more, rfl, ?_⟩
    rw [splitOn, hcs]
    simp [h]

/-- Pieces hold what the text holds, and no separator. -/
theorem mem_splitOn {piece : List Char} (h : piece ∈ splitOn p cs) (hc : c ∈ piece) :
    c ∈ cs ∧ p c = false := by
  induction cs generalizing piece with
  | nil =>
    have hnil : piece = [] := by simpa [splitOn] using h
    simp [hnil] at hc
  | cons x cs ih =>
    by_cases hx : p x = true
    · rw [splitOn, if_pos hx] at h
      rcases List.mem_cons.mp h with hnil | h
      · simp [hnil] at hc
      · obtain ⟨hmem, hsep⟩ := ih h hc
        exact ⟨List.mem_cons_of_mem _ hmem, hsep⟩
    · have hx : p x = false := by simpa using hx
      obtain ⟨first, more, hcs, hall⟩ := splitOn_cons cs hx
      rw [hall] at h
      rw [hcs] at ih
      rcases List.mem_cons.mp h with rfl | h
      · rcases List.mem_cons.mp hc with rfl | hc
        · exact ⟨by simp, hx⟩
        · obtain ⟨hmem, hsep⟩ := ih (by simp) hc
          exact ⟨List.mem_cons_of_mem _ hmem, hsep⟩
      · obtain ⟨hmem, hsep⟩ := ih (List.mem_cons_of_mem _ h) hc
        exact ⟨List.mem_cons_of_mem _ hmem, hsep⟩

theorem splitOn_of_none (h : ∀ x ∈ cs, p x = false) : splitOn p cs = [cs] := by
  induction cs with
  | nil => rfl
  | cons x cs ih =>
    rw [splitOn, ih fun y hy => h y (List.mem_cons_of_mem _ hy)]
    simp [h x (by simp)]

/-- A separator keeps the pieces on both sides apart. -/
theorem splitOn_separator (hc : p c = true) (a b : List Char) :
    splitOn p (a ++ c :: b) = splitOn p a ++ splitOn p b := by
  induction a with
  | nil => simp [splitOn, hc]
  | cons x a ih =>
    rw [List.cons_append, splitOn, splitOn, ih]
    split
    · rfl
    · cases hsplit : splitOn p a with
      | nil => exact absurd hsplit (splitOn_ne_nil p a)
      | cons piece more => rfl

/-- Before a separator stands one piece. -/
theorem splitOn_append (ha : ∀ x ∈ a, p x = false) (hc : p c = true) :
    splitOn p (a ++ c :: b) = a :: splitOn p b := by
  rw [splitOn_separator hc, splitOn_of_none ha, List.singleton_append]

/-- A text without separators on either side of it is a piece. -/
theorem mem_splitOn_of_between {piece before behind : List Char} (hpiece : ∀ x ∈ piece, p x = false)
    (hbefore : ∀ x ∈ before.getLast?, p x = true) (hbehind : ∀ x ∈ behind.head?, p x = true) :
    piece ∈ splitOn p (before ++ piece ++ behind) := by
  have hfirst : piece ∈ splitOn p (piece ++ behind) := by
    cases behind with
    | nil => simp [splitOn_of_none hpiece]
    | cons x behind => simp [splitOn_append hpiece (hbehind x rfl)]
  rw [List.append_assoc]
  rcases List.eq_nil_or_concat before with rfl | ⟨front, x, rfl⟩
  · exact hfirst
  · have hx : p x = true := hbefore x (by simp)
    rw [List.concat_append, splitOn_separator hx]
    exact List.mem_append_right _ hfirst

/-- The pieces of a text are what stands in it without separators, between two of them or between
one and an end. -/
theorem mem_splitOn_iff {piece : List Char} : piece ∈ splitOn p cs ↔
    (∀ x ∈ piece, p x = false) ∧ ∃ before behind, cs = before ++ piece ++ behind ∧
      (∀ x ∈ before.getLast?, p x = true) ∧ ∀ x ∈ behind.head?, p x = true := by
  refine ⟨fun h => ⟨fun x hx => (mem_splitOn h hx).2, ?_⟩, ?_⟩
  · -- what stands before the first separator is a piece, and the others are those of the rest
    induction hn : cs.length using Nat.strongRecOn generalizing cs with
    | ind n ih =>
      cases hfind : cs.find? p with
      | none =>
        have hnone : ∀ x ∈ cs, p x = false := by simpa using hfind
        have hwhole : piece = cs := by simpa [splitOn_of_none hnone] using h
        exact ⟨[], [], by simp [hwhole], by simp, by simp⟩
      | some c =>
        obtain ⟨hc, a, b, rfl, ha⟩ := List.find?_eq_some_iff_append.mp hfind
        rw [splitOn_append (by simpa using ha) hc] at h
        rcases List.mem_cons.mp h with rfl | h
        · exact ⟨[], c :: b, rfl, by simp, by simpa using hc⟩
        · have hshorter : b.length < n := by
            rw [← hn, List.length_append, List.length_cons]
            omega
          obtain ⟨before, behind, rfl, hbefore, hbehind⟩ := ih b.length hshorter h rfl
          refine ⟨a ++ c :: before, behind, by simp, fun x hx => ?_, hbehind⟩
          rw [List.getLast?_append, List.getLast?_cons, Option.some_or] at hx
          cases hlast : before.getLast? with
          | none =>
            rw [hlast] at hx
            exact Option.some.inj hx ▸ hc
          | some y =>
            rw [hlast] at hx
            exact Option.some.inj hx ▸ hbefore y hlast
  · rintro ⟨hpiece, before, behind, rfl, hbefore, hbehind⟩
    exact mem_splitOn_of_between hpiece hbefore hbehind

/-- Pieces with separators between them come apart again. -/
theorem splitOn_intercalate {pieces : List (List Char)} (hc : p c = true)
    (hpieces : ∀ piece ∈ pieces, ∀ x ∈ piece, p x = false) (hne : pieces ≠ []) :
    splitOn p ([c].intercalate pieces) = pieces := by
  induction pieces with
  | nil => exact absurd rfl hne
  | cons piece rest ih =>
    have hpiece := hpieces piece (by simp)
    cases rest with
    | nil => rw [List.intercalate_singleton, splitOn_of_none hpiece]
    | cons next rest =>
      have hrest := ih (fun x hx => hpieces x (List.mem_cons_of_mem _ hx)) (by simp)
      rw [List.intercalate_cons_cons, List.append_assoc, List.singleton_append,
        splitOn_append hpiece hc, hrest]

/-- Pieces with separators between them hold nothing else. -/
theorem mem_intercalate {sep x : Char} {pieces : List (List Char)}
    (h : x ∈ [sep].intercalate pieces) : x = sep ∨ ∃ piece ∈ pieces, x ∈ piece := by
  induction pieces with
  | nil => simp at h
  | cons piece rest ih =>
    cases rest with
    | nil =>
      rw [List.intercalate_singleton] at h
      exact Or.inr ⟨piece, by simp, h⟩
    | cons next rest =>
      rw [List.intercalate_cons_cons, List.append_assoc, List.singleton_append] at h
      rcases List.mem_append.mp h with h | h
      · exact Or.inr ⟨piece, by simp, h⟩
      · rcases List.mem_cons.mp h with h | h
        · exact Or.inl h
        · rcases ih h with h | ⟨other, hother, h⟩
          · exact Or.inl h
          · exact Or.inr ⟨other, List.mem_cons_of_mem _ hother, h⟩

/-! ### The first separator -/

/-- A text is cut at a separator that has none before it. -/
theorem cutAt_eq_some_iff :
    cutAt p cs = some (a, b) ↔ ∃ c, cs = a ++ c :: b ∧ p c = true ∧ ∀ x ∈ a, p x = false := by
  induction cs generalizing a with
  | nil => simp [cutAt]
  | cons x cs ih =>
    rw [cutAt]
    by_cases hx : p x = true
    · rw [if_pos hx]
      constructor
      · intro h
        obtain ⟨rfl, rfl⟩ := Prod.mk.inj (Option.some.inj h)
        exact ⟨x, rfl, hx, by simp⟩
      · intro h
        obtain ⟨c, hcs, -, ha⟩ := h
        cases a with
        | nil => simp_all
        | cons y a =>
          -- the separator at the start would stand before the one the text is cut at
          have hy : y = x := (List.cons.inj hcs).1.symm
          rw [← hy, ha y (by simp)] at hx
          cases hx
    · rw [if_neg hx]
      have hx : p x = false := by simpa using hx
      constructor
      · intro h
        obtain ⟨⟨a', b'⟩, hcut, heq⟩ := Option.map_eq_some_iff.mp h
        obtain ⟨rfl, rfl⟩ := Prod.mk.inj heq
        obtain ⟨c, hcs, hc, ha⟩ := ih.mp hcut
        refine ⟨c, by rw [hcs]; rfl, hc, ?_⟩
        simpa [hx] using ha
      · intro h
        obtain ⟨c, hcs, hc, ha⟩ := h
        cases a with
        | nil =>
          have hxc : x = c := (List.cons.inj hcs).1
          rw [hxc, hc] at hx
          cases hx
        | cons y a =>
          obtain ⟨rfl, hrest⟩ := List.cons.inj hcs
          have hcut := ih.mpr ⟨c, hrest, hc, fun z hz => ha z (List.mem_cons_of_mem _ hz)⟩
          rw [hcut]
          rfl

theorem cutAt_append (ha : ∀ x ∈ a, p x = false) :
    cutAt p (a ++ cs) = (cutAt p cs).map fun x => (a ++ x.1, x.2) := by
  induction a with
  | nil => simp
  | cons x a ih =>
    rw [List.cons_append, cutAt, ih fun y hy => ha y (List.mem_cons_of_mem _ hy), Option.map_map]
    simp [ha x (by simp), Function.comp_def]

/-! ### Beginnings -/

theorem dropLead?_eq_some_iff : dropLead? a cs = some b ↔ cs = a ++ b := by
  induction a generalizing cs with
  | nil => simp [dropLead?]
  | cons x a ih =>
    cases cs with
    | nil => simp [dropLead?]
    | cons y cs =>
      by_cases h : x = y
      · simp [dropLead?, h, ih]
      · simp [dropLead?, h, Ne.symm h]

theorem dropLead?_eq_none_iff : dropLead? a cs = none ↔ ¬ a <+: cs := by
  rw [← Option.not_isSome_iff_eq_none, Option.isSome_iff_exists]
  simp only [dropLead?_eq_some_iff]
  exact not_congr ⟨fun ⟨b, h⟩ => ⟨b, h.symm⟩, fun ⟨b, h⟩ => ⟨b, h.symm⟩⟩

/-! ### Ends -/

theorem dropEndWhile_append_of_all {q : α → Bool} {xs ys : List α} (h : ∀ y ∈ ys, q y = true) :
    dropEndWhile q (xs ++ ys) = dropEndWhile q xs := by
  unfold dropEndWhile
  rw [List.reverse_append, List.dropWhile_append_of_pos]
  intro y hy
  exact h y (List.mem_reverse.mp hy)

/-- A list whose first element is kept loses nothing at its start. -/
theorem dropWhile_of_head {q : α → Bool} {xs : List α}
    (h : ∀ x ∈ xs.head?, q x = false) : xs.dropWhile q = xs := by
  cases xs with
  | nil => rfl
  | cons x xs => simp [h x (by simp)]

/-- What ends with an element that is kept loses nothing, whatever stands behind it. -/
theorem dropEndWhile_append {q : α → Bool} {xs ys : List α}
    (h : ∀ x ∈ xs.getLast?, q x = false) : dropEndWhile q (xs ++ ys) = xs ++ dropEndWhile q ys := by
  have hkept : xs.reverse.dropWhile q = xs.reverse :=
    dropWhile_of_head (by rwa [List.head?_reverse])
  unfold dropEndWhile
  rw [List.reverse_append, List.dropWhile_append]
  split
  · next hnil =>
    rw [hkept, List.isEmpty_iff.mp hnil, List.reverse_reverse, List.reverse_nil, List.append_nil]
  · rw [List.reverse_append, List.reverse_reverse]

/-- A list whose last element is kept loses nothing at its end. -/
theorem dropEndWhile_of_last {q : α → Bool} {xs : List α}
    (h : ∀ x ∈ xs.getLast?, q x = false) : dropEndWhile q xs = xs := by
  have hnone : dropEndWhile q (xs ++ []) = xs ++ [] := dropEndWhile_append h
  rwa [List.append_nil] at hnone

theorem dropEndWhile_append_of_not {q : α → Bool} {xs ys : List α} {y : α}
    (h : q y = false) : dropEndWhile q (xs ++ (ys ++ [y])) = xs ++ (ys ++ [y]) :=
  dropEndWhile_of_last (by simpa using h)

end ModelGateway.Text

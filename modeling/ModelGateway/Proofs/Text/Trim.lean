/-
What is left without the blanks around it.

A text comes apart into blanks, a core that neither begins nor ends with one, and blanks
again, and the core is the same however it is cut; an empty core has its blanks on either
side.  Trimming finds it.
-/
import Mathlib.Data.List.DropRight
import ModelGateway.Proofs.Text.Pieces

namespace ModelGateway.Text

/-- A text is blanks, a core that neither begins nor ends with a blank, and blanks. -/
structure Trimmed (text core : List Char) : Prop where
  around : ∃ before behind, text = before ++ core ++ behind ∧
    (∀ c ∈ before, isBlank c = true) ∧ ∀ c ∈ behind, isBlank c = true
  starts : ∀ c ∈ core.head?, isBlank c = false
  ends : ∀ c ∈ core.getLast?, isBlank c = false

variable {text core : List Char}

/-- A text that neither begins nor ends with a blank is its own core. -/
theorem trimmed_self (hstarts : ∀ c ∈ core.head?, isBlank c = false)
    (hends : ∀ c ∈ core.getLast?, isBlank c = false) : Trimmed core core :=
  ⟨⟨[], [], by simp, by simp, by simp⟩, hstarts, hends⟩

theorem trimmed_of_no_blank (h : ∀ c ∈ core, isBlank c = false) : Trimmed core core :=
  trimmed_self (fun c hc => h c (List.mem_of_mem_head? hc))
    (fun c hc => h c (List.mem_of_mem_getLast? hc))

theorem stripWhile_eq_rdropWhile {α : Type} (p : α → Bool) (xs : List α) :
    stripWhile p xs = (xs.dropWhile p).rdropWhile p := rfl

theorem kept_of_head_dropWhile {α : Type} {p : α → Bool} {xs : List α} {x : α}
    (h : x ∈ (xs.dropWhile p).head?) : p x = false := by
  have hkept := List.head?_dropWhile_not p xs
  rw [Option.mem_def.mp h] at hkept
  simpa using hkept

/-- However a text is cut, the core is the same. -/
theorem Trimmed.eq_strip (h : Trimmed text core) : core = stripWhile isBlank text := by
  obtain ⟨before, behind, htext, hbefore, hbehind⟩ := h.around
  have hstart : text.dropWhile isBlank = (core ++ behind).dropWhile isBlank := by
    rw [htext, List.append_assoc, List.dropWhile_append_of_pos hbefore]
  unfold stripWhile
  rw [hstart]
  cases core with
  | nil =>
    have hnone : behind.dropWhile isBlank = [] := List.dropWhile_eq_nil_iff.mpr hbehind
    rw [List.nil_append, hnone]
    rfl
  | cons c rest =>
    have hkept : (c :: rest ++ behind).dropWhile isBlank = c :: rest ++ behind :=
      dropWhile_of_head h.starts
    rw [hkept, dropEndWhile_append_of_all hbehind, dropEndWhile_of_last h.ends]

/-- A text without blanks loses nothing. -/
theorem trim_of_no_blank {s : String} (h : ∀ c ∈ s.toList, isBlank c = false) : trim s = s := by
  rw [trim, ← (trimmed_of_no_blank h).eq_strip, String.ofList_toList]

theorem trimmed_strip (text : List Char) : Trimmed text (stripWhile isBlank text) where
  around := by
    refine ⟨text.takeWhile isBlank, (text.dropWhile isBlank).rtakeWhile isBlank, ?_, ?_, ?_⟩
    · rw [stripWhile_eq_rdropWhile, List.append_assoc, List.rdropWhile_append_rtakeWhile,
        List.takeWhile_append_dropWhile]
    · intro c hc
      exact List.mem_takeWhile_imp hc
    · intro c hc
      exact List.mem_rtakeWhile_imp hc
  starts := by
    intro c hc
    -- what is left at both ends begins where what is left at the start begins
    obtain ⟨behind, hbehind⟩ : stripWhile isBlank text <+: text.dropWhile isBlank :=
      List.rdropWhile_prefix isBlank (text.dropWhile isBlank)
    have hfirst : c ∈ (text.dropWhile isBlank).head? := by
      rw [← hbehind]
      exact List.mem_head?_append_of_mem_head? hc
    exact kept_of_head_dropWhile hfirst
  ends := by
    intro c hc
    obtain ⟨hne, rfl⟩ := List.mem_getLast?_eq_getLast hc
    exact eq_false_of_ne_true
      (List.rdropWhile_last_not isBlank (text.dropWhile isBlank) hne)

/-- Trimming finds the core, and there is no other. -/
theorem trimmed_iff {s : String} : Trimmed s.toList core ↔ (trim s).toList = core := by
  rw [trim, String.toList_ofList]
  constructor
  · intro h
    exact h.eq_strip.symm
  · intro h
    rw [← h]
    exact trimmed_strip s.toList

/-- What is left has nothing more around it. -/
theorem trim_trim (s : String) : trim (trim s) = trim s := by
  have hcore := trimmed_strip s.toList
  have hagain : Trimmed (trim s).toList (trim s).toList := by
    rw [trim, String.toList_ofList]
    exact trimmed_self hcore.starts hcore.ends
  rw [trim, ← hagain.eq_strip, String.ofList_toList]

end ModelGateway.Text

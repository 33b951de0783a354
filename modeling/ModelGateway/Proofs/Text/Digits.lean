/-
Numbers and their digits.

A number is written digit by digit, the last one being its remainder, so what holds of its
digits is shown by taking the last one off.  Reading the digits gives the number back.
-/
import Mathlib.Data.Bool.AllAny
import ModelGateway.Text.Basic

namespace ModelGateway.Text

variable {b n : Nat} {c : Char}

theorem digitChar_of_mem (hb : 1 < b) (h : c ∈ Nat.toDigits b n) :
    ∃ d < b, c = Nat.digitChar d := by
  induction n using Nat.base_induction b hb with
  | single m hm =>
    rw [Nat.toDigits_of_lt_base hm, List.mem_singleton] at h
    exact ⟨m, hm, h⟩
  | digit m k hk hm ih =>
    rw [← Nat.toDigits_append_toDigits hb hm hk, Nat.toDigits_of_lt_base hk] at h
    rcases List.mem_append.mp h with h | h
    · exact ih h
    · exact ⟨k, hk, List.mem_singleton.mp h⟩

theorem mem_decimal (h : c ∈ Nat.toDigits 10 n) : c ∈ "0123456789".toList := by
  have hall : ∀ d : Fin 10, Nat.digitChar d ∈ "0123456789".toList := by decide
  obtain ⟨d, hd, rfl⟩ := digitChar_of_mem (by decide) h
  exact hall ⟨d, hd⟩

theorem isDigit_of_mem (h : c ∈ Nat.toDigits 10 n) : isDigit c = true := by
  have hall : ∀ c ∈ "0123456789".toList, isDigit c = true :=
    List.all_iff_forall_prop.mp (by decide)
  exact hall c (mem_decimal h)

theorem decimalValue_toDigits (n : Nat) : decimalValue (Nat.toDigits 10 n) = n := by
  have hsame : decimalValue (Nat.toDigits 10 n) = Nat.ofDigitChars 10 (Nat.toDigits 10 n) 0 := by
    rw [decimalValue, Nat.ofDigitChars_eq_foldl]
    simp only [Nat.mul_comm 10]
    rfl
  rw [hsame, Nat.ofDigitChars_ten_toDigits]

/-- The values of hexadecimal digits make up the number. -/
theorem hexValues_toDigits (n : Nat) :
    ∃ ds, (Nat.toDigits 16 n).mapM hexValue? = some ds ∧ ds.foldl (fun n d => n * 16 + d) 0 = n := by
  have hall : ∀ d : Fin 16, hexValue? (Nat.digitChar d) = some d.val := by decide
  induction n using Nat.base_induction 16 (by decide) with
  | single m hm =>
    refine ⟨[m], ?_, by simp⟩
    rw [Nat.toDigits_of_lt_base hm]
    simp [hall ⟨m, hm⟩]
  | digit m k hk hm ih =>
    obtain ⟨ds, hds, hvalue⟩ := ih
    refine ⟨ds ++ [k], ?_, ?_⟩
    · rw [← Nat.toDigits_append_toDigits (by decide) hm hk, Nat.toDigits_of_lt_base hk,
        List.mapM_append, hds]
      simp [hall ⟨k, hk⟩]
    · rw [List.foldl_append, hvalue]
      simp [Nat.mul_comm]

end ModelGateway.Text

/-
What is written spells what was meant.

Writing chooses one spelling of many: no blanks, an escape only where a string could not
hold the character itself, and the shortest such escape.
-/
import ModelGateway.Json.Print
import ModelGateway.Proofs.Json.Lexeme
import ModelGateway.Proofs.Json.Number
import ModelGateway.Proofs.Text.Digits
import ModelGateway.Proofs.Text.Utf8

namespace ModelGateway.Json

variable {c : Char}

/-! ### Strings -/

/-- The code of a control character. -/
def CodeUnit.ofControl (h : c.toNat < 0x20) : CodeUnit where
  first := ⟨0, false⟩
  second := ⟨0, false⟩
  third := ⟨⟨c.toNat / 16, by omega⟩, false⟩
  fourth := ⟨⟨c.toNat % 16, by omega⟩, false⟩

/-- The sign that is written for a character. -/
def Sign.ofChar (c : Char) : Sign :=
  if hquote : c = '"' then .letter .quote
  else if hslash : c = '\\' then .letter .backslash
  else if c = '\n' then .letter .lineFeed
  else if c = '\r' then .letter .carriageReturn
  else if c = '\t' then .letter .tab
  else if c = '\x08' then .letter .backspace
  else if c = '\x0c' then .letter .formFeed
  else if hlow : c.toNat < 0x20 then .code (.ofControl hlow)
  else .plain c ⟨Nat.not_lt.mp hlow, hquote, hslash⟩

theorem CodeUnit.ofControl_value (h : c.toNat < 0x20) : (ofControl h).value = c.toNat := by
  simp only [value, ofControl]
  omega

theorem encode_hexLower (v : Fin 16) :
    String.utf8EncodeChar (Text.hexLower v) = [HexDigit.byte ⟨v, false⟩] := by
  have hall : ∀ v : Fin 16, (Text.hexLower v).toNat ≤ 127 := by decide
  exact encode_ascii (hall v)

theorem encode_writeChar (c : Char) : Utf8.encode (writeChar c) = (Sign.ofChar c).bytes := by
  unfold writeChar Sign.ofChar
  iterate 7 (split; · rfl)
  split
  · next h =>
    have hthird := encode_hexLower ⟨c.toNat / 16, by omega⟩
    have hfourth := encode_hexLower ⟨c.toNat % 16, by omega⟩
    simp only [Utf8.encode, List.flatMap_cons, hthird, hfourth]
    rfl
  · simp [Utf8.encode, Sign.bytes]

/-- The sign that is written for a character means that character. -/
theorem text?_ofChar (c : Char) (signs : List Sign) :
    text? (Sign.ofChar c :: signs) = (text? signs).map (c :: ·) := by
  unfold Sign.ofChar
  iterate 7 (split; · next h => rw [h]; rfl)
  split
  · next h =>
    have hlow : isLowHalf c.toNat = false := by
      simp [isLowHalf]
      omega
    have hhigh : isHighHalf c.toNat = false := by
      simp [isHighHalf]
      omega
    rw [text?.eq_def]
    simp [CodeUnit.ofControl_value, hlow, hhigh]
  · rfl

theorem text?_map_ofChar (cs : List Char) : text? (cs.map Sign.ofChar) = some cs := by
  induction cs with
  | nil => rfl
  | cons c cs ih => rw [List.map_cons, text?_ofChar, ih, Option.map_some]

/-- A text is written as a string that means it. -/
theorem encode_writeString (s : String) :
    Utf8.encode (writeString s) = quoted (s.toList.map Sign.ofChar) := by
  have hchars : ∀ cs : List Char, Utf8.encode (cs.flatMap writeChar ++ ['"']) =
      unquoted (cs.map Sign.ofChar) := by
    intro cs
    induction cs with
    | nil => rfl
    | cons c cs ih =>
      rw [List.flatMap_cons, List.append_assoc, Utf8.encode_append, encode_writeChar, ih,
        List.map_cons, unquoted_cons]
  have hquote : Utf8.encode ('"' :: (s.toList.flatMap writeChar ++ ['"'])) =
      0x22 :: Utf8.encode (s.toList.flatMap writeChar ++ ['"']) := rfl
  rw [writeString, List.cons_append, hquote, hchars, quoted]

/-! ### Numbers -/

variable {n : Nat}

/-- The digits of a number as they are written. -/
def digitBytes (n : Nat) : List UInt8 := (Nat.toDigits 10 n).map byte

/-- A digit that is written is an ASCII character. -/
theorem digit_of_mem (h : c ∈ Nat.toDigits 10 n) :
    (0x30 ≤ c.toNat ∧ c.toNat ≤ 0x39) ∧ String.utf8EncodeChar c = [byte c] ∧
      (byte c).toNat = c.toNat := by
  have hdigit := Text.isDigit_of_mem h
  simp only [Text.isDigit, Bool.and_eq_true, decide_eq_true_eq] at hdigit
  have hrange : 0x30 ≤ c.toNat ∧ c.toNat ≤ 0x39 := hdigit
  exact ⟨hrange, encode_ascii (by omega), toNat_byte (by omega)⟩

theorem encode_toDigits (n : Nat) : Utf8.encode (Nat.toDigits 10 n) = digitBytes n := by
  have hrun : ∀ cs : List Char, (∀ c ∈ cs, String.utf8EncodeChar c = [byte c]) →
      Utf8.encode cs = cs.map byte := by
    intro cs
    induction cs with
    | nil => exact fun _ => rfl
    | cons c cs ih =>
      intro h
      rw [Utf8.encode, List.flatMap_cons, ← Utf8.encode, h c List.mem_cons_self,
        ih fun x hx => h x (List.mem_cons_of_mem c hx), List.map_cons, List.singleton_append]
  exact hrun _ fun c hc => (digit_of_mem hc).2.1

theorem digitsValue_digitBytes (n : Nat) : digitsValue (digitBytes n) = n := by
  have hrun : ∀ (cs : List Char) (m : Nat), (∀ c ∈ cs, (byte c).toNat = c.toNat) →
      (cs.map byte).foldl (fun n d => n * 10 + digitValue d) m =
        cs.foldl (fun n c => n * 10 + (c.toNat - 0x30)) m := by
    intro cs
    induction cs with
    | nil => exact fun m _ => rfl
    | cons c cs ih =>
      intro m h
      rw [List.map_cons, List.foldl_cons, List.foldl_cons, digitValue, h c List.mem_cons_self,
        ih _ fun x hx => h x (List.mem_cons_of_mem c hx)]
  exact (hrun _ 0 fun c hc => (digit_of_mem hc).2.2).trans (Text.decimalValue_toDigits n)

/-- No number but zero is written with a zero in front. -/
theorem head_toDigits (h : (Nat.toDigits 10 n).head? = some '0') : n = 0 := by
  induction n using Nat.base_induction 10 (by decide) with
  | single m hm =>
    have hall : ∀ m : Fin 10, (Nat.toDigits 10 m.val).head? = some '0' → m.val = 0 := by decide
    exact hall ⟨m, hm⟩ h
  | digit m k hk hm ih =>
    rw [← Nat.toDigits_append_toDigits (by decide) hm hk] at h
    obtain ⟨c, cs, hcs⟩ := List.exists_cons_of_ne_nil (Nat.toDigits_ne_nil (n := m) (b := 10))
    have hhead : (Nat.toDigits 10 m).head? = some '0' := by
      rw [hcs] at h ⊢
      exact h
    exact absurd (ih hhead) (Nat.ne_of_gt hm)

theorem isWhole_digitBytes (n : Nat) : IsWhole (digitBytes n) := by
  refine ⟨⟨by simp [digitBytes, Nat.toDigits_ne_nil], fun d hd => ?_⟩, fun hzero => ?_⟩
  · obtain ⟨c, hc, rfl⟩ := List.mem_map.mp hd
    obtain ⟨hrange, -, hbyte⟩ := digit_of_mem hc
    exact isDigit_iff.mpr (by rwa [hbyte])
  · obtain ⟨c, cs, hcs⟩ := List.exists_cons_of_ne_nil (Nat.toDigits_ne_nil (n := n) (b := 10))
    have hc : byte c = 0x30 := by
      rw [digitBytes, hcs] at hzero
      exact Option.some.inj hzero
    have hmem : c ∈ Nat.toDigits 10 n := by simp [hcs]
    have hzero : c = '0' := by
      refine Char.toNat_inj.mp ?_
      rw [← (digit_of_mem hmem).2.2, hc]
      rfl
    have hhead : (Nat.toDigits 10 n).head? = some '0' := by rw [hcs, List.head?_cons, hzero]
    rw [head_toDigits hhead]
    rfl

end ModelGateway.Json

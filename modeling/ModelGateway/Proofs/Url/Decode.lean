/-
What is read back from percent-encoded text.

Decoding takes a character for its bytes, unless it is a percent sign with two hexadecimal
digits behind it.  So it gives back what was encoded if every percent sign was encoded too.  A
part of an address that keeps percent signs decodes to what the text itself decodes to, since
encoding leaves the digits behind them alone and makes no new ones.
-/
import ModelGateway.Proofs.Url.Percent
import ModelGateway.Proofs.Url.Reading

namespace ModelGateway.Url

variable {set : EncodeSet} {cs rest : List Char} {c : Char}

/-- A text begins with two hexadecimal digits. -/
def IsCode (cs : List Char) : Prop :=
  ∃ a b rest, cs = a :: b :: rest ∧ (Text.hexValue? a).isSome = true ∧
    (Text.hexValue? b).isSome = true

/-! ### Decoding -/

/-- What is no code behind a percent sign stands for itself. -/
theorem percentDecode_cons (h : c = '%' → ¬ IsCode rest) :
    percentDecode (c :: rest) = String.utf8EncodeChar c ++ percentDecode rest := by
  by_cases hlong : c = '%' ∧ ∃ a b more, rest = a :: b :: more
  · obtain ⟨rfl, a, b, more, rfl⟩ := hlong
    have hcode := h rfl
    have hsign : String.utf8EncodeChar '%' = [0x25] := by decide
    rw [percentDecode, hsign]
    split
    · next x y ha hb => exact absurd ⟨a, b, more, rfl, by rw [ha]; rfl, by rw [hb]; rfl⟩ hcode
    · rfl
  · rw [percentDecode]
    rintro a b more rfl rfl
    exact hlong ⟨rfl, a, b, more, rfl⟩

theorem percentDecode_code {a b : Char} {x y : Nat} (ha : Text.hexValue? a = some x)
    (hb : Text.hexValue? b = some y) :
    percentDecode ('%' :: a :: b :: rest) = UInt8.ofNat (x * 16 + y) :: percentDecode rest := by
  rw [percentDecode, ha, hb]

theorem hexValue?_hexUpper : ∀ n < 16, Text.hexValue? (Text.hexUpper n) = some n := by decide

theorem percentDecode_encodeByte (b : UInt8) :
    percentDecode (encodeByte b ++ rest) = b :: percentDecode rest := by
  have hb := b.toNat_lt
  show percentDecode ('%' :: Text.hexUpper _ :: Text.hexUpper _ :: rest) = b :: percentDecode rest
  rw [percentDecode_code (hexValue?_hexUpper _ (by omega)) (hexValue?_hexUpper _ (by omega)),
    Nat.div_add_mod', UInt8.ofNat_toNat]

theorem percentDecode_encodeBytes (bytes : List UInt8) :
    percentDecode (bytes.flatMap encodeByte ++ rest) = bytes ++ percentDecode rest := by
  induction bytes with
  | nil => rfl
  | cons b bytes ih =>
    rw [List.flatMap_cons, List.append_assoc, percentDecode_encodeByte, ih, List.cons_append]

/-- A character reads back as its bytes, if it is no percent sign that becomes part of a code. -/
theorem percentDecode_encodeChar (h : c = '%' → set c = false → ¬ IsCode rest) :
    percentDecode (encodeChar set c ++ rest) = String.utf8EncodeChar c ++ percentDecode rest := by
  unfold encodeChar
  split
  · next hkept =>
    simp only [Bool.and_eq_true, Bool.not_eq_true'] at hkept
    exact percentDecode_cons fun hc => h hc hkept.2
  · exact percentDecode_encodeBytes _

/-! ### Data -/

/-- A part that holds no bare percent sign decodes to the text. -/
theorem percentDecode_data (hset : set '%' = true) :
    percentDecode (percentEncode set cs) = Utf8.encode cs := by
  induction cs with
  | nil => rfl
  | cons c cs ih =>
    have hsign : c = '%' → set c = false → ¬ IsCode (percentEncode set cs) := by
      rintro rfl hfree
      rw [hset] at hfree
      cases hfree
    show percentDecode (encodeChar set c ++ percentEncode set cs) = _
    rw [percentDecode_encodeChar hsign, ih]
    rfl

/-! ### Texts that may be encoded already -/

/-- A part of an address keeps what codes are spelled with. -/
structure KeepsCodes (set : EncodeSet) : Prop where
  sign : set '%' = false
  digit : ∀ c, (Text.hexValue? c).isSome = true → Keeps set c

/-- A hexadecimal digit is one of 22 characters. -/
theorem hex_mem (h : (Text.hexValue? c).isSome = true) : c ∈ "0123456789abcdefABCDEF".toList := by
  have hrange : (0x30 ≤ c.toNat ∧ c.toNat ≤ 0x39) ∨ (0x61 ≤ c.toNat ∧ c.toNat ≤ 0x66) ∨
      (0x41 ≤ c.toNat ∧ c.toNat ≤ 0x46) := by
    simp only [Text.hexValue?] at h
    grind
  have hall : ∀ n < 0x67, (0x30 ≤ n ∧ n ≤ 0x39) ∨ (0x61 ≤ n ∧ n ≤ 0x66) ∨ (0x41 ≤ n ∧ n ≤ 0x46) →
      Char.ofNat n ∈ "0123456789abcdefABCDEF".toList := by decide
  rw [← Char.ofNat_toNat c]
  exact hall _ (by omega) hrange

theorem specialQuery_keepsCodes : KeepsCodes .specialQuery where
  sign := by decide
  digit := by
    have hall : "0123456789abcdefABCDEF".toList.all fun c =>
        decide (c.toNat < 0x80) && !EncodeSet.specialQuery c := by decide
    intro c hc
    simpa [Keeps] using List.all_eq_true.mp hall c (hex_mem hc)

theorem percentEncode_of_keeps_head (h : Keeps set c) :
    percentEncode set (c :: cs) = c :: percentEncode set cs := by
  show encodeChar set c ++ percentEncode set cs = _
  rw [encodeChar, if_pos (by simp [h.1, h.2])]
  rfl

/-- What is written for a character that a part does not hold begins with a percent sign. -/
theorem percentEncode_of_not_keeps (h : ¬ Keeps set c) (cs : List Char) :
    ∃ more, percentEncode set (c :: cs) = '%' :: more := by
  have hcoded : ¬ (decide (c.toNat < 0x80) && !set c) = true := by simpa [Keeps] using h
  obtain ⟨b, bytes, hbytes⟩ := List.exists_cons_of_ne_nil (l := String.utf8EncodeChar c) (by simp)
  have hwritten : percentEncode set (c :: cs) =
      encodeByte b ++ (bytes.flatMap encodeByte ++ percentEncode set cs) := by
    show encodeChar set c ++ percentEncode set cs = _
    rw [encodeChar, if_neg hcoded, hbytes, List.flatMap_cons, List.append_assoc]
  exact ⟨_, hwritten⟩

/-- A digit in front of encoded text was in front of the text. -/
theorem of_percentEncode_eq_cons {a : Char} (ha : (Text.hexValue? a).isSome = true)
    (heq : percentEncode set cs = a :: rest) :
    ∃ more, cs = a :: more ∧ rest = percentEncode set more := by
  cases cs with
  | nil => cases heq
  | cons c more =>
    by_cases hc : Keeps set c
    · rw [percentEncode_of_keeps_head hc] at heq
      obtain ⟨rfl, rfl⟩ := List.cons.inj heq
      exact ⟨more, rfl, rfl⟩
    · obtain ⟨coded, hcoded⟩ := percentEncode_of_not_keeps hc more
      rw [hcoded] at heq
      obtain ⟨rfl, -⟩ := List.cons.inj heq
      cases ha

/-- Encoding neither breaks codes nor makes new ones. -/
theorem isCode_percentEncode (hset : KeepsCodes set) :
    IsCode (percentEncode set cs) ↔ IsCode cs := by
  constructor
  · rintro ⟨a, b, rest, heq, ha, hb⟩
    obtain ⟨more, rfl, hmore⟩ := of_percentEncode_eq_cons ha heq
    obtain ⟨more', rfl, -⟩ := of_percentEncode_eq_cons hb hmore.symm
    exact ⟨a, b, more', rfl, ha, hb⟩
  · rintro ⟨a, b, rest, rfl, ha, hb⟩
    refine ⟨a, b, percentEncode set rest, ?_, ha, hb⟩
    rw [percentEncode_of_keeps_head (hset.digit a ha),
      percentEncode_of_keeps_head (hset.digit b hb)]

/-- A part that keeps codes decodes to what the text does. -/
theorem percentDecode_percentEncode (hset : KeepsCodes set) :
    percentDecode (percentEncode set cs) = percentDecode cs := by
  have hsign : Keeps set '%' := ⟨by decide, hset.sign⟩
  have hchar : ∀ c cs, (c = '%' → ¬ IsCode cs) →
      percentDecode (percentEncode set cs) = percentDecode cs →
        percentDecode (percentEncode set (c :: cs)) = percentDecode (c :: cs) := by
    intro c cs hc ih
    have hcoded : c = '%' → set c = false → ¬ IsCode (percentEncode set cs) :=
      fun hpercent _ => (isCode_percentEncode hset).not.mpr (hc hpercent)
    show percentDecode (encodeChar set c ++ percentEncode set cs) = _
    rw [percentDecode_encodeChar hcoded, percentDecode_cons hc, ih]
  induction cs using percentDecode.induct with
  | case1 => rfl
  | case2 a b cs x y hb ha ih =>
    rw [percentEncode_of_keeps_head hsign,
      percentEncode_of_keeps_head (hset.digit a (by rw [ha]; rfl)),
      percentEncode_of_keeps_head (hset.digit b (by rw [hb]; rfl)), percentDecode_code ha hb,
      percentDecode_code ha hb, ih]
  | case3 a b cs hother ih =>
    refine hchar _ _ (fun _ hcode => ?_) ih
    obtain ⟨_, _, _, heq, ha, hb⟩ := hcode
    obtain ⟨rfl, hrest⟩ := List.cons.inj heq
    obtain ⟨rfl, -⟩ := List.cons.inj hrest
    obtain ⟨x, hx⟩ := Option.isSome_iff_exists.mp ha
    obtain ⟨y, hy⟩ := Option.isSome_iff_exists.mp hb
    exact hother x y hx hy
  | case4 c cs hother ih =>
    refine hchar _ _ (fun hc hcode => ?_) ih
    obtain ⟨a, b, rest, heq, -, -⟩ := hcode
    exact hother a b rest hc heq

/-! ### Texts without line breaks -/

theorem unwrap_of_flat (h : ∀ c ∈ cs, isLineBreak c = false) : unwrap cs = cs :=
  List.filter_eq_self.mpr fun c hc => by rw [h c hc]; rfl

theorem flat_of_all (h : cs.all (!isLineBreak ·) = true) : ∀ c ∈ cs, isLineBreak c = false := by
  simpa using h

/-! ### Dots -/

/-- A spelling of a full stop. -/
def IsStop (cs : List Char) : Prop :=
  cs.map Char.toLower = ['.'] ∨ cs.map Char.toLower = ['%', '2', 'e']

theorem eq_of_toLower {d : Char} (h : c.toLower = d) (hd : d.isAlpha = false) : c = d := by
  rcases toLower_cases c with hsame | halpha
  · exact hsame.symm.trans h
  · rw [h, hd] at halpha
    cases halpha

theorem hexValue?_of_toLower (h : c.toLower = 'e') : Text.hexValue? c = some 14 := by
  by_cases hupper : c.isUpper = true
  · have hrange : c.val ≥ 'A'.val ∧ c.val ≤ 'Z'.val := of_decide_eq_true hupper
    have hlower : c.toLower.val = c.val + ('a'.val - 'A'.val) := congrArg Char.val (dif_pos hrange)
    have hval : c.val = 'E'.val := by
      rw [h] at hlower
      have hsum : 'E'.val + ('a'.val - 'A'.val) = c.val + ('a'.val - 'A'.val) := hlower
      exact (UInt32.add_left_inj _).mp hsum.symm
    rw [Char.ext hval]
    decide
  · rw [toLower_of_not_upper hupper] at h
    rw [h]
    decide

theorem IsStop.percentDecode (h : IsStop cs) :
    percentDecode (cs ++ rest) = 0x2E :: percentDecode rest := by
  rcases h with h | h
  · obtain ⟨c, none, rfl, hc, hnil⟩ := List.map_eq_cons_iff.mp h
    rw [List.map_eq_nil_iff.mp hnil, eq_of_toLower hc (by decide)]
    exact percentDecode_cons (by simp)
  · obtain ⟨c, more, rfl, hc, h⟩ := List.map_eq_cons_iff.mp h
    obtain ⟨d, more, rfl, hd, h⟩ := List.map_eq_cons_iff.mp h
    obtain ⟨e, none, rfl, he, hnil⟩ := List.map_eq_cons_iff.mp h
    rw [List.map_eq_nil_iff.mp hnil, eq_of_toLower hc (by decide), eq_of_toLower hd (by decide)]
    exact percentDecode_code (x := 2) (by decide) (hexValue?_of_toLower he)

/-- Whatever is passed over as a dot is decoded as one. -/
theorem percentDecode_of_isDot (h : isDot cs = true) : percentDecode cs = [0x2E] := by
  have hstop : IsStop cs := by
    simpa [isDot, ← String.toList_inj, IsStop] using h
  rw [← List.append_nil cs, hstop.percentDecode]
  rfl

/-- Whatever takes back a segment is decoded as two dots. -/
theorem percentDecode_of_isDotDot (h : isDotDot cs = true) : percentDecode cs = [0x2E, 0x2E] := by
  obtain ⟨a, b, rfl, ha, hb⟩ : ∃ a b, cs = a ++ b ∧ IsStop a ∧ IsStop b := by
    have hcases : cs.map Char.toLower = ['.'] ++ ['.'] ∨
        cs.map Char.toLower = ['.'] ++ ['%', '2', 'e'] ∨
        cs.map Char.toLower = ['%', '2', 'e'] ++ ['.'] ∨
        cs.map Char.toLower = ['%', '2', 'e'] ++ ['%', '2', 'e'] := by
      simpa [isDotDot, ← String.toList_inj] using h
    rcases hcases with h | h | h | h
    all_goals
      obtain ⟨a, b, rfl, ha, hb⟩ := List.map_eq_append_iff.mp h
      exact ⟨a, b, rfl, by simp [IsStop, ha], by simp [IsStop, hb]⟩
  rw [ha.percentDecode, ← List.append_nil b, hb.percentDecode]
  rfl

end ModelGateway.Url

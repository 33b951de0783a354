/-
The smallest parts of a JSON text are read as the grammar has them.

A string is read sign by sign: each sign takes its own bytes and leaves what it means, and
two halves of a character are taken together.  So a string is read to its end exactly if its
signs mean something, and it is passed over in any case.
-/
import ModelGateway.Json.Skip
import ModelGateway.Proofs.Json.Grammar
import ModelGateway.Proofs.Result
import ModelGateway.Proofs.Text.Utf8

namespace ModelGateway.Json

variable {t rest : List UInt8} {b : UInt8} {signs : List Sign} {l : Literal}

/-! ### Blanks and words -/

theorem skipBlanks_gap (g : Gap) : skipBlanks (g.bytes ++ rest) = skipBlanks rest := by
  rw [skipBlanks, List.dropWhile_append_of_pos g.blank, skipBlanks]

theorem skipBlanks_cons (h : isBlank b = false) : skipBlanks (b :: rest) = b :: rest := by
  rw [skipBlanks, List.dropWhile_cons_of_neg (by simp [h])]

theorem skipBlanks_of_opens (h : Opens t) : skipBlanks (t ++ rest) = t ++ rest := by
  obtain ⟨b, more, rfl, hb, -⟩ := h
  exact skipBlanks_cons hb

theorem readWord_append (cs : List Char) : readWord cs (cs.map byte ++ rest) = .ok rest := by
  induction cs with
  | nil => rfl
  | cons c cs ih => rw [List.map_cons, List.cons_append, readWord, if_pos rfl, ih]

/-! ### Strings -/

theorem hex?_byte (h : HexDigit) : hex? h.byte = some h.value.val := by
  have hall : ∀ (v : Fin 16) (u : Bool), hex? (HexDigit.byte ⟨v, u⟩) = some v.val := by decide
  exact hall h.value h.upper

theorem CodeUnit.hex4?_bytes (u : CodeUnit) :
    hex4? u.first.byte u.second.byte u.third.byte u.fourth.byte = some u.value := by
  simp only [hex4?, hex?_byte]
  rfl

theorem letter_ne_code (e : Escape) : byte e.letter ≠ 0x75 := by
  cases e <;> decide

/-- What may be a byte of a string that stands for itself. -/
def IsInside (b : UInt8) : Prop := ¬ b < 0x20 ∧ b ≠ 0x22 ∧ b ≠ 0x5C

theorem isInside_iff : IsInside b ↔ 0x20 ≤ b.toNat ∧ b.toNat ≠ 0x22 ∧ b.toNat ≠ 0x5C := by
  simp [IsInside, UInt8.lt_iff_toNat_lt, ← UInt8.toNat_inj]

theorem encode_ascii {c : Char} (h : c.toNat ≤ 127) : String.utf8EncodeChar c = [byte c] := by
  have hcode : c.val.toNat = c.toNat := rfl
  simp only [String.utf8EncodeChar, hcode, if_pos h]
  rfl

theorem toNat_byte {c : Char} (h : c.toNat ≤ 127) : (byte c).toNat = c.toNat := by
  rw [byte, UInt8.toNat_ofNat']
  omega

/-- A character beyond ASCII has no byte of an ASCII character. -/
theorem byte_of_mem {c : Char} (hb : b ∈ String.utf8EncodeChar c) :
    b.toNat = c.toNat ∨ 0x80 ≤ b.toNat := by
  have hcode : c.val.toNat = c.toNat := rfl
  by_cases hascii : c.toNat ≤ 127
  · rw [encode_ascii hascii, List.mem_singleton] at hb
    exact Or.inl (hb ▸ toNat_byte hascii)
  · refine Or.inr ?_
    have hall : ∀ b ∈ String.utf8EncodeChar c, 0x80 ≤ b.toNat := by
      simp only [String.utf8EncodeChar, hcode, if_neg hascii]
      split
      · simp only [List.mem_cons, List.not_mem_nil, or_false, forall_eq_or_imp, forall_eq,
          UInt8.toNat_ofNat']
        omega
      · split
        all_goals
          simp only [List.mem_cons, List.not_mem_nil, or_false, forall_eq_or_imp, forall_eq,
          UInt8.toNat_ofNat']
          omega
    exact hall b hb

theorem inside_of_mem {c : Char} (h : MayStand c) (hb : b ∈ String.utf8EncodeChar c) :
    IsInside b := by
  obtain ⟨hlow, hquote, hslash⟩ := h
  have hq : c.toNat ≠ 0x22 := fun hc => hquote (Char.toNat_inj.mp hc)
  have hs : c.toNat ≠ 0x5C := fun hc => hslash (Char.toNat_inj.mp hc)
  refine isInside_iff.mpr ?_
  rcases byte_of_mem hb with hsame | hbeyond <;> omega

/-! ### Reading a string -/

theorem readLiteral_inside (h : IsInside b) :
    readLiteral l (b :: rest) = readLiteral (l.push b) rest := by
  obtain ⟨hlow, hquote, hslash⟩ := h
  rw [readLiteral, if_neg hlow] <;> simp_all

/-- A literal with some more characters, of which some may have come from escapes. -/
def Literal.add (l : Literal) (cs : List Char) (escaped : Bool) : Literal :=
  ⟨(Utf8.encode cs).reverse ++ l.reversed, l.escaped || escaped⟩

theorem Literal.add_nil : l.add [] false = l := by
  simp [add, Utf8.encode]

theorem Literal.add_add {cs ds : List Char} {x y : Bool} :
    (l.add cs x).add ds y = l.add (cs ++ ds) (x || y) := by
  simp [add, Utf8.encode_append, Bool.or_assoc]

theorem readLiteral_letter (e : Escape) :
    readLiteral l (0x5C :: byte e.letter :: rest) = readLiteral (l.add [e.char] true) rest := by
  have hadd : l.add [e.char] true = ⟨byte e.char :: l.reversed, true⟩ := by
    rw [Literal.add, Bool.or_true]
    cases e <;> rfl
  rw [hadd]
  cases e <;> rfl

theorem readLiteral_plain {c : Char} (h : MayStand c) :
    readLiteral l (String.utf8EncodeChar c ++ rest) = readLiteral (l.add [c] false) rest := by
  have hrun : ∀ (bytes : List UInt8) (l : Literal), (∀ b ∈ bytes, IsInside b) →
      readLiteral l (bytes ++ rest) =
        readLiteral ⟨bytes.reverse ++ l.reversed, l.escaped⟩ rest := by
    intro bytes
    induction bytes with
    | nil => intro l _; rfl
    | cons b bytes ih =>
      intro l hinside
      rw [List.cons_append, readLiteral_inside (hinside b List.mem_cons_self),
        ih _ fun x hx => hinside x (List.mem_cons_of_mem b hx)]
      simp [Literal.push]
  rw [hrun _ _ fun b => inside_of_mem h]
  simp [Literal.add, Utf8.encode]

/-- What is read behind the first half of a character. -/
def readOtherHalf (l : Literal) (n : Nat) (bytes : List UInt8) :
    Except Error (Literal × List UInt8) :=
  match bytes with
  | 0x5C :: 0x75 :: e :: f :: g :: h :: rest =>
    match hex4? e f g h with
    | none => .error .malformed
    | some m =>
      if isLowHalf m then readLiteral (l.pushCode (joinHalves n m)) rest else .error .malformed
  | [] | [0x5C] => .error .unfinished
  | 0x5C :: 0x75 :: _ => .error .unfinished
  | _ => .error .malformed

theorem Literal.pushCode_eq {n : Nat} : l.pushCode n = l.add [Char.ofNat n] true := by
  simp [pushCode, add, Utf8.encode]

theorem readLiteral_code (u : CodeUnit) :
    readLiteral l (0x5C :: 0x75 :: (u.bytes ++ rest)) =
      if isLowHalf u.value then .error .malformed
      else if isHighHalf u.value then readOtherHalf l u.value rest
      else readLiteral (l.add [Char.ofNat u.value] true) rest := by
  simp only [CodeUnit.bytes, List.cons_append, List.nil_append]
  rw [readLiteral, u.hex4?_bytes, ← Literal.pushCode_eq]
  rfl

theorem readOtherHalf_code {n : Nat} (w : CodeUnit) :
    readOtherHalf l n (0x5C :: 0x75 :: (w.bytes ++ rest)) =
      if isLowHalf w.value then readLiteral (l.add [Char.ofNat (joinHalves n w.value)] true) rest
      else .error .malformed := by
  have hread : readOtherHalf l n (0x5C :: 0x75 :: (w.bytes ++ rest)) =
      match hex4? w.first.byte w.second.byte w.third.byte w.fourth.byte with
      | none => .error .malformed
      | some m =>
        if isLowHalf m then readLiteral (l.pushCode (joinHalves n m)) rest
        else .error .malformed := rfl
  rw [hread, w.hex4?_bytes, ← Literal.pushCode_eq]

/-- What a half of a character is followed by if its other half is missing. -/
def Lonely (bytes : List UInt8) : Prop :=
  ∃ b more, bytes = b :: more ∧ (b ≠ 0x5C ∨ ∃ e after, more = e :: after ∧ e ≠ 0x75)

theorem readOtherHalf_lonely {n : Nat} (h : Lonely rest) :
    readOtherHalf l n rest = .error .malformed := by
  obtain ⟨b, more, rfl, h⟩ := h
  unfold readOtherHalf
  split <;> simp_all

theorem lonely_unquoted (h : ∀ w more, signs ≠ .code w :: more) :
    Lonely (unquoted signs ++ rest) := by
  match signs with
  | [] => exact ⟨_, _, rfl, Or.inl (by decide)⟩
  | .code w :: more => exact absurd rfl (h w more)
  | .letter e :: more => exact ⟨_, _, rfl, Or.inr ⟨_, _, rfl, letter_ne_code e⟩⟩
  | .plain c hc :: more =>
    have hne : String.utf8EncodeChar c ≠ [] := by simp
    obtain ⟨b, bs, hbytes⟩ := List.exists_cons_of_ne_nil hne
    have hb : IsInside b := inside_of_mem hc (by simp [hbytes])
    refine ⟨b, bs ++ (unquoted more ++ rest), ?_, Or.inl hb.2.2⟩
    simp [unquoted, Sign.bytes, hbytes]

/-- A string is read to its end if its signs mean something, and refused otherwise. -/
theorem readLiteral_unquoted :
    readLiteral l (unquoted signs ++ rest) =
      match text? signs with
      | some cs => .ok (l.add cs (!signs.all Sign.isPlain), rest)
      | none => .error .malformed := by
  fun_induction text? signs generalizing l with
  | case1 =>
    show Except.ok (l, rest) = .ok (l.add [] false, rest)
    rw [Literal.add_nil]
  | case2 c hc signs ih =>
    rw [unquoted_cons, List.append_assoc, Sign.bytes, readLiteral_plain hc, ih]
    cases text? signs <;> simp [Literal.add_add, Sign.isPlain]
  | case3 e signs ih =>
    rw [unquoted_cons, List.append_assoc]
    show readLiteral l (0x5C :: byte e.letter :: (unquoted signs ++ rest)) = _
    rw [readLiteral_letter, ih]
    cases text? signs <;> simp [Literal.add_add, Sign.isPlain]
  | case4 u signs hlow =>
    rw [unquoted_cons, List.append_assoc]
    exact (readLiteral_code u).trans (if_pos hlow)
  | case5 u hlow hhigh w signs hsecond ih =>
    rw [unquoted_cons, unquoted_cons, List.append_assoc, List.append_assoc]
    refine (readLiteral_code u).trans ?_
    rw [if_neg hlow, if_pos hhigh]
    refine (readOtherHalf_code w).trans ?_
    rw [if_pos hsecond, ih]
    cases text? signs <;> simp [Literal.add_add, Sign.isPlain]
  | case6 u hlow hhigh w signs hsecond =>
    rw [unquoted_cons, unquoted_cons, List.append_assoc, List.append_assoc]
    refine (readLiteral_code u).trans ?_
    rw [if_neg hlow, if_pos hhigh]
    exact (readOtherHalf_code w).trans (if_neg hsecond)
  | case7 u signs hlow hhigh hlonely =>
    rw [unquoted_cons, List.append_assoc]
    refine (readLiteral_code u).trans ?_
    rw [if_neg hlow, if_pos hhigh]
    exact readOtherHalf_lonely (lonely_unquoted hlonely)
  | case8 u signs hlow hhigh ih =>
    rw [unquoted_cons, List.append_assoc]
    refine (readLiteral_code u).trans ?_
    rw [if_neg hlow, if_neg hhigh, ih]
    cases text? signs <;> simp [Literal.add_add, Sign.isPlain]

/-- What some signs mean, as it is reported. -/
def spelt (signs : List Sign) : Except Error String :=
  match text? signs with
  | some cs => .ok (String.ofList cs)
  | none => .error .malformed

theorem spelt_eq_ok_iff {s : String} : spelt signs = .ok s ↔ text? signs = some s.toList := by
  rw [spelt]
  cases text? signs with
  | none => simp
  | some cs => simp [← String.toList_inj]

theorem readString_unquoted :
    readString (unquoted signs ++ rest) =
      (spelt signs).map fun s => ((s, !signs.all Sign.isPlain), rest) := by
  rw [readString, readLiteral_unquoted, spelt]
  cases text? signs with
  | none => rfl
  | some cs =>
    have hbytes : ((Literal.add {} cs (!signs.all Sign.isPlain)).reversed).reverse =
        Utf8.encode (String.ofList cs).toList := by simp [Literal.add]
    simp only [Result.ok_bind, Utf8.decodeList?_eq_some_iff.mpr hbytes]
    rfl

/-! ### Passing over a string -/

theorem skipString_inside {bytes : List UInt8} (h : ∀ b ∈ bytes, IsInside b) :
    skipString (bytes ++ rest) = skipString rest := by
  induction bytes with
  | nil => rfl
  | cons b bytes ih =>
    obtain ⟨hlow, hquote, hslash⟩ := h b List.mem_cons_self
    rw [List.cons_append, ← ih fun x hx => h x (List.mem_cons_of_mem b hx), skipString, if_neg hlow]
      <;> simp_all

theorem skipString_sign (s : Sign) : skipString (s.bytes ++ rest) = skipString rest := by
  cases s with
  | plain c h => exact skipString_inside fun b => inside_of_mem h
  | letter e => cases e <;> rfl
  | code u =>
    have hskip : skipString ((Sign.code u).bytes ++ rest) =
        if (hex4? u.first.byte u.second.byte u.third.byte u.fourth.byte).isSome then
          skipString rest
        else .error .malformed := rfl
    rw [hskip, u.hex4?_bytes]
    rfl

/-- A string is passed over whether it means something or not. -/
theorem skipString_unquoted : skipString (unquoted signs ++ rest) = .ok rest := by
  induction signs with
  | nil => rfl
  | cons s signs ih => rw [unquoted_cons, List.append_assoc, skipString_sign, ih]

end ModelGateway.Json

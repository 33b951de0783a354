/-
A key never sends two blocks to the same one.

Every step of the cipher can be undone.  The substitution table holds every byte and has as many
places as there are bytes, so it holds none twice.  Mixing a column four times changes nothing:
mixing it twice adds to each byte a multiple of its sum with the byte two places on, which leaves
those sums alone, so that mixing it twice more adds the same again.
-/
import Mathlib.Data.Fintype.EquivFin
import ModelGateway.Crypto.Aes
import ModelGateway.Proofs.Lists

namespace ModelGateway.Aes

/-! ### Bytes -/

/-- Which bytes a list holds, as the bits of a number. -/
def marked (bytes : List UInt8) : Nat := bytes.foldr (fun b m => m ||| 1 <<< b.toNat) 0

theorem mem_of_marked {bytes : List UInt8} {c : UInt8}
    (h : (marked bytes).testBit c.toNat = true) : c ∈ bytes := by
  induction bytes with
  | nil => simp [marked] at h
  | cons b rest ih =>
    have hstep : marked (b :: rest) = marked rest ||| 1 <<< b.toNat := rfl
    rw [hstep, Nat.testBit_or, Nat.one_shiftLeft, Nat.testBit_two_pow, Bool.or_eq_true,
      decide_eq_true_eq, UInt8.toNat_inj] at h
    rcases h with h | rfl
    · exact List.mem_cons_of_mem _ (ih h)
    · exact List.mem_cons_self

/-- Every byte is in the substitution table. -/
theorem marked_substitutions : marked substitutions.toList + 1 = 1 <<< 256 := by decide +kernel

theorem size_substitutions : substitutions.size = 256 := by decide +kernel

theorem substitute_surjective : Function.Surjective substitute := by
  intro c
  have hmem : c ∈ substitutions := by
    rw [Array.mem_def]
    refine mem_of_marked ?_
    rw [Nat.eq_sub_of_add_eq marked_substitutions, Nat.one_shiftLeft, Nat.testBit_two_pow_sub_one]
    exact decide_eq_true c.toNat_lt
  obtain ⟨i, hi, hc⟩ := Array.getElem_of_mem hmem
  have hsize : i < 256 := size_substitutions ▸ hi
  refine ⟨UInt8.ofNat i, ?_⟩
  rw [substitute, UInt8.toNat_ofNat_of_lt' hsize, Array.getD_eq_getD_getElem?,
    Array.getElem?_eq_getElem hi, hc, Option.getD_some]

/-- No two bytes are substituted by the same one: the table hits all of them. -/
theorem substitute_injective : Function.Injective substitute := by
  have hfinite : Finite UInt8 := Finite.of_injective UInt8.toFin fun a b => UInt8.toFin_inj.mp
  exact Finite.injective_iff_surjective.mpr substitute_surjective

theorem double_eq (b : UInt8) :
    double b = (b <<< 1) ^^^ (if b.toBitVec.msb then 0x1B else 0) := by
  have hmsb : b < 0x80 ↔ b.toBitVec.msb = false := by
    rw [BitVec.msb_eq_decide, decide_eq_false_iff_not, UInt8.lt_iff_toNat_lt, not_le]
    rfl
  unfold double
  by_cases h : b < 0x80
  · rw [if_pos h, hmsb.mp h]
    simp
  · rw [if_neg h, if_pos (by simpa using hmsb.not.mp h)]

theorem xor_left_comm (a b c : UInt8) : a ^^^ (b ^^^ c) = b ^^^ (a ^^^ c) := by
  rw [← UInt8.xor_assoc, UInt8.xor_comm a, UInt8.xor_assoc]

theorem xor_cancel (a b : UInt8) : a ^^^ (a ^^^ b) = b := by
  rw [← UInt8.xor_assoc, UInt8.xor_self, UInt8.zero_xor]

theorem double_xor (a b : UInt8) : double (a ^^^ b) = double a ^^^ double b := by
  have hmsb : (if (a ^^^ b).toBitVec.msb then 0x1B else 0 : UInt8) =
      (if a.toBitVec.msb then 0x1B else 0) ^^^ (if b.toBitVec.msb then 0x1B else 0) := by
    rw [UInt8.toBitVec_xor, BitVec.msb_xor]
    cases a.toBitVec.msb <;> cases b.toBitVec.msb <;> rfl
  rw [double_eq, double_eq a, double_eq b, hmsb, UInt8.shiftLeft_xor, UInt8.xor_assoc,
    UInt8.xor_assoc, xor_left_comm (b <<< 1)]

/-- A byte of a mixed column, the bytes taken from its place on. -/
def blend (a b c d : UInt8) : UInt8 := double a ^^^ triple b ^^^ c ^^^ d

/-- Blended twice, a byte is itself and four times its sum with the one two places on. -/
theorem blend_blend (a b c d : UInt8) :
    blend (blend a b c d) (blend b c d a) (blend c d a b) (blend d a b c) =
      double (double (a ^^^ c)) ^^^ a := by
  simp only [blend, triple, double_xor, UInt8.xor_assoc, UInt8.xor_comm, xor_left_comm, xor_cancel]

/-! ### Columns -/

namespace Column

theorem mix_eq (c : Column) : c.mix =
    ⟨blend c.b0 c.b1 c.b2 c.b3, blend c.b1 c.b2 c.b3 c.b0, blend c.b2 c.b3 c.b0 c.b1,
      blend c.b3 c.b0 c.b1 c.b2⟩ := by
  simp only [mix, blend, UInt8.xor_assoc, UInt8.xor_comm, xor_left_comm]

/-- Four times mixed, a column is what it was. -/
theorem mix_four_times (c : Column) : c.mix.mix.mix.mix = c := by
  have htwice : ∀ c : Column, c.mix.mix =
      ⟨double (double (c.b0 ^^^ c.b2)) ^^^ c.b0, double (double (c.b1 ^^^ c.b3)) ^^^ c.b1,
        double (double (c.b2 ^^^ c.b0)) ^^^ c.b2, double (double (c.b3 ^^^ c.b1)) ^^^ c.b3⟩ := by
    intro c
    rw [mix_eq c, mix_eq]
    simp only [blend_blend]
  rw [htwice, htwice]
  simp only [double_xor, UInt8.xor_comm, xor_left_comm, UInt8.xor_self, UInt8.xor_zero]

theorem mix_injective : Function.Injective mix := by
  intro a b h
  rw [← mix_four_times a, h, mix_four_times]

theorem add_injective (key : Column) : Function.Injective (add · key) := by
  intro a b h
  cases a
  cases b
  simpa [add] using h

theorem substitute_injective : Function.Injective substitute := by
  intro a b h
  cases a
  cases b
  simpa [substitute, Aes.substitute_injective.eq_iff] using h

end Column

/-! ### Blocks -/

namespace Block

theorem add_injective (key : Block) : Function.Injective (add · key) := by
  intro s t h
  cases s
  cases t
  simpa [add, (Column.add_injective _).eq_iff] using h

theorem substitute_injective : Function.Injective substitute := by
  intro s t h
  cases s
  cases t
  simpa [substitute, Column.substitute_injective.eq_iff] using h

theorem shiftRows_injective : Function.Injective shiftRows := by
  intro s t h
  obtain ⟨⟨_, _, _, _⟩, ⟨_, _, _, _⟩, ⟨_, _, _, _⟩, ⟨_, _, _, _⟩⟩ := s
  obtain ⟨⟨_, _, _, _⟩, ⟨_, _, _, _⟩, ⟨_, _, _, _⟩, ⟨_, _, _, _⟩⟩ := t
  simp only [shiftRows, mk.injEq, Column.mk.injEq] at h ⊢
  tauto

theorem mix_injective : Function.Injective mix := by
  intro s t h
  cases s
  cases t
  simpa [mix, Column.mix_injective.eq_iff] using h

theorem toList_ofList (bytes : List UInt8) :
    (ofList bytes).toList = (List.range 16).map fun i => bytes.getD i 0 := rfl

/-- A block is made of the first sixteen bytes. -/
theorem toList_ofList_of_le {bytes : List UInt8} (h : 16 ≤ bytes.length) :
    (ofList bytes).toList = bytes.take 16 := by
  rw [toList_ofList, map_getD_range h]

/-- A block loses nothing of sixteen bytes. -/
theorem toList_ofList_of_length {bytes : List UInt8} (h : bytes.length = 16) :
    (ofList bytes).toList = bytes := by
  rw [toList_ofList_of_le h.ge, ← h, List.take_length]

end Block

/-! ### Keys -/

namespace Key

/-- The bytes of a key. -/
def toList (k : Key) : List UInt8 := k.left.toList ++ k.right.toList

theorem length_toList (k : Key) : k.toList.length = 32 := rfl

theorem ofList_toList (k : Key) : ofList k.toList = k := rfl

/-- A key loses nothing of 32 bytes. -/
theorem toList_ofList {bytes : List UInt8} (h : bytes.length = 32) :
    (ofList bytes).toList = bytes := by
  have hright : (bytes.drop 16).length = 16 := by rw [List.length_drop, h]
  rw [toList, ofList, Block.toList_ofList_of_le (by omega), Block.toList_ofList_of_length hright,
    List.take_append_drop]

end Key

/-! ### The cipher -/

theorem round_injective (key : Block) : Function.Injective (round · key) :=
  (Block.add_injective key).comp
    (Block.mix_injective.comp (Block.shiftRows_injective.comp Block.substitute_injective))

theorem lastRound_injective (key : Block) : Function.Injective (lastRound · key) :=
  (Block.add_injective key).comp (Block.shiftRows_injective.comp Block.substitute_injective)

theorem rounds_injective (keys : List Block) : Function.Injective (rounds · keys) := by
  induction keys with
  | nil => exact Function.injective_id
  | cons key rest ih =>
    cases rest with
    | nil => exact lastRound_injective key
    | cons next rest => exact ih.comp (round_injective key)

/-- A key never makes the same block of two blocks. -/
theorem encrypt_injective (k : Key) : Function.Injective (encrypt k) :=
  (rounds_injective (roundKeys k)).comp (Block.add_injective k.left)

end ModelGateway.Aes

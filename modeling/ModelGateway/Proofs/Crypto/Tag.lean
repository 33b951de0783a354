/-
A tag notices a change in one place.

A nonce, a ciphertext and their tag make one string of bytes, and no two such strings differ in
one byte only.  If it is a byte of the nonce, the tag is masked with the same block although the
counters differ, and a key sends no two blocks to one.  If it is a byte of the ciphertext, one
coefficient of its polynomial differs, the sums that are multiplied by the point from there on
differ, and the field has no zero divisors.  If it is a byte of the tag, there is nothing that
the tags could have been computed from.

All this takes a point other than zero: at zero, the ciphertext would not matter.
-/
import Mathlib.Data.Nat.Digits.Lemmas
import ModelGateway.Proofs.Crypto.Aes
import ModelGateway.Proofs.Crypto.Field
import ModelGateway.Proofs.Crypto.Gcm

namespace ModelGateway.Gcm

open Aes (Block Key)

variable {k : Key} {point : Element} {nonce nonce' cipher cipher' : List UInt8}

/-! ### Blocks and elements -/

/-- A block tells a byte that it was made from. -/
theorem ofList_set_injective {bytes : List UInt8} {j : Nat} (hj : j < bytes.length)
    (hblock : j < 16) : Function.Injective fun y => Block.ofList (bytes.set j y) := by
  have htold : ∀ y, (Block.ofList (bytes.set j y)).toList[j]? = some y := by
    intro y
    rw [Block.toList_ofList, List.getElem?_map, List.getElem?_range hblock, Option.map_some,
      List.getD_eq_getElem?_getD, List.getElem?_set_self hj, Option.getD_some]
  intro y y' h
  have hsame : Block.ofList (bytes.set j y) = Block.ofList (bytes.set j y') := h
  rw [← Option.some.injEq, ← htold y, ← htold y', hsame]

/-- The bytes of a block, the last first, as digits. -/
def digits (s : Block) : List Nat := (s.toList.map UInt8.toNat).reverse

theorem digits_lt {s : Block} : ∀ d ∈ digits s, d < 256 := by
  intro d hd
  obtain ⟨b, -, rfl⟩ := List.mem_map.mp (List.mem_reverse.mp hd)
  exact b.toNat_lt

theorem digits_injective : Function.Injective digits := by
  have hbytes : Function.Injective Block.toList :=
    Function.LeftInverse.injective (g := Block.ofList) fun _ => rfl
  exact List.reverse_injective.comp <|
    (List.map_injective_iff.mpr fun _ _ => UInt8.toNat_inj.mp).comp hbytes

/-- The element of some bytes is the number that their block's bytes are the digits of. -/
theorem toElement_toNat (bytes : List UInt8) :
    (toElement bytes).toNat = Nat.ofDigits 256 (digits (Block.ofList bytes)) := by
  have hdigits : ∀ l : List UInt8, l.foldl (fun n b => n * 256 + b.toNat) 0 =
      Nat.ofDigits 256 (l.map UInt8.toNat).reverse := by
    intro l
    rw [Nat.ofDigits_eq_foldr, List.foldr_reverse, List.foldl_map]
    simp only [Nat.cast_id, Nat.mul_comm, Nat.add_comm]
  have hlt : Nat.ofDigits 256 (digits (Block.ofList bytes)) < 2 ^ 128 := by
    have hbound := Nat.ofDigits_lt_base_pow_length (by decide)
      (digits_lt (s := Block.ofList bytes))
    have hlength : (digits (Block.ofList bytes)).length = 16 := rfl
    rw [hlength] at hbound
    exact hbound.trans_eq (by norm_num)
  unfold toElement
  rw [BitVec.toNat_ofNat, hdigits]
  exact Nat.mod_eq_of_lt hlt

theorem toElement_inj {bytes bytes' : List UInt8} :
    toElement bytes = toElement bytes' ↔ Block.ofList bytes = Block.ofList bytes' := by
  refine ⟨fun h => digits_injective ?_, fun h => by unfold toElement; rw [h]⟩
  refine Nat.ofDigits_inj_of_len_eq (by decide) rfl digits_lt digits_lt ?_
  rw [← toElement_toNat, ← toElement_toNat, h]

/-- An element is told by its bytes. -/
theorem ofElement_injective : Function.Injective ofElement := by
  intro v w h
  refine BitVec.eq_of_getLsbD_eq fun i hi => ?_
  have htold : ∀ u : Element, ((ofElement u)[15 - i / 8]?.map fun b => b.toNat.testBit (i % 8)) =
      some (u.getLsbD i) := by
    intro u
    have hplace : 8 * (15 - (15 - i / 8)) + i % 8 = i := by omega
    rw [ofElement, List.getElem?_map, List.getElem?_range (by omega), Option.map_some,
      Option.map_some, UInt8.toNat_ofNat', Nat.testBit_mod_two_pow, Nat.testBit_shiftRight, hplace,
      decide_eq_true (Nat.mod_lt i (by decide)), Bool.true_and, BitVec.testBit_toNat]
  rw [← Option.some.injEq, ← htold v, ← htold w, h]

/-! ### Sums -/

theorem zipWith_xor_comm (xs ys : List UInt8) :
    List.zipWith (· ^^^ ·) xs ys = List.zipWith (· ^^^ ·) ys xs :=
  List.zipWith_comm_of_comm fun a b => UInt8.xor_comm a b

/-- The sum with a block tells what was added to it. -/
theorem eq_of_zipWith_xor {xs ys zs : List UInt8} (hxs : xs.length ≤ zs.length)
    (hys : ys.length ≤ zs.length)
    (h : List.zipWith (· ^^^ ·) xs zs = List.zipWith (· ^^^ ·) ys zs) : xs = ys := by
  rw [← zipWith_xor_twice hxs, h, zipWith_xor_twice hys]

/-! ### The polynomial of a ciphertext -/

theorem absorb_injective (hpoint : point ≠ 0#128) (coefficient : Element) :
    Function.Injective (absorb point · coefficient) := by
  intro v w h
  exact (BitVec.xor_left_inj coefficient).mp (product_injective hpoint h)

/-- Taking in coefficients loses nothing of the value. -/
theorem foldl_absorb_injective (hpoint : point ≠ 0#128) (coefficients : List Element) :
    Function.Injective (coefficients.foldl (absorb point)) := by
  induction coefficients with
  | nil => exact Function.injective_id
  | cons c rest ih => exact ih.comp (absorb_injective hpoint c)

/-- A place of a ciphertext is a place of one block. -/
theorem chunks_set {i : Nat} (hi : i < cipher.length) :
    ∃ before behind, ∃ block : List UInt8, ∃ j, j < block.length ∧ j < 16 ∧
      ∀ y, chunks (cipher.set i y) = before ++ block.set j y :: behind := by
  induction cipher using chunks.induct generalizing i with
  | case1 => simp at hi
  | case2 b bs ih =>
    have hcut : ∀ y, chunks ((b :: bs).set i y) =
        ((b :: bs).set i y).take 16 :: chunks (((b :: bs).set i y).drop 16) := by
      intro y
      cases i <;> rw [List.set, chunks]
    by_cases hfirst : i < 16
    · refine ⟨[], chunks ((b :: bs).drop 16), (b :: bs).take 16, i, ?_, hfirst, fun y => ?_⟩
      · rw [List.length_take]
        omega
      · rw [hcut, List.take_set, List.drop_set_of_lt hfirst, List.nil_append]
    · have hrest : i - 16 < ((b :: bs).drop 16).length := by
        rw [List.length_drop]
        omega
      obtain ⟨before, behind, block, j, hj, hblock, hset⟩ := ih hrest
      refine ⟨(b :: bs).take 16 :: before, behind, block, j, hj, hblock, fun y => ?_⟩
      rw [hcut, List.take_set_of_le (by omega), List.drop_set, if_neg hfirst, hset,
        List.cons_append]

/-- The polynomial's value tells each byte of the ciphertext, given the others. -/
theorem hash_set_injective (hpoint : point ≠ 0#128) {i : Nat} (hi : i < cipher.length) :
    Function.Injective fun y => hash point (cipher.set i y) := by
  obtain ⟨before, behind, block, j, hj, hblock, hset⟩ := chunks_set hi
  obtain ⟨first, rest, hcoefficients⟩ : ∃ first rest, ∀ y,
      coefficients (cipher.set i y) = first ++ toElement (block.set j y) :: rest := by
    refine ⟨before.map toElement, behind.map toElement ++ [BitVec.ofNat 128 (8 * cipher.length)],
      fun y => ?_⟩
    rw [coefficients, hset, List.length_set, List.map_append, List.map_cons, List.append_assoc,
      List.cons_append]
  intro y y' h
  simp only [hash, hcoefficients, List.foldl_append, List.foldl_cons] at h
  have hsum := product_injective hpoint (foldl_absorb_injective hpoint rest h)
  exact ofList_set_injective hj hblock (toElement_inj.mp ((BitVec.xor_right_inj _).mp hsum))

/-! ### The tag -/

/-- Two counters agree only if the nonces do. -/
theorem counter_injective {n : Nat} (h : nonce.length = 12) (h' : nonce'.length = 12)
    (heq : counter nonce n = counter nonce' n) : nonce = nonce' := by
  unfold counter at heq
  have hbytes := congrArg Block.toList heq
  rw [Block.toList_ofList_of_length (by simp [h]), Block.toList_ofList_of_length (by simp [h']),
    List.take_of_length_le h.le, List.take_of_length_le h'.le] at hbytes
  exact List.append_cancel_right hbytes

/-- The point that a key's polynomials are evaluated at. -/
theorem point_ne_zero (hk : Aes.encrypt k .zero ≠ .zero) :
    toElement (Aes.encrypt k .zero).toList ≠ 0#128 := by
  have hzero : toElement Block.zero.toList = 0#128 := by decide +kernel
  rw [← hzero]
  exact fun h => hk (toElement_inj.mp h)

theorem length_ofElement (v : Element) : (ofElement v).length = 16 := by
  simp [ofElement]

/-- One tag vouches for one nonce only, if the ciphertext is the same. -/
theorem eq_of_tag_nonce (h : nonce.length = 12) (h' : nonce'.length = 12)
    (htag : tag k nonce cipher = tag k nonce' cipher) : nonce = nonce' := by
  simp only [tag] at htag
  rw [zipWith_xor_comm, zipWith_xor_comm _ (Aes.encrypt k (counter nonce' 1)).toList] at htag
  have hmask := eq_of_zipWith_xor (by rw [length_ofElement, length_blockList])
    (by rw [length_ofElement, length_blockList]) htag
  have hcounter : counter nonce 1 = counter nonce' 1 :=
    Aes.encrypt_injective k (congrArg Block.ofList hmask)
  exact counter_injective h h' hcounter

/-- One tag vouches for one value of the polynomial, if the nonce is the same. -/
theorem hash_eq_of_tag (htag : tag k nonce cipher = tag k nonce cipher') :
    hash (toElement (Aes.encrypt k .zero).toList) cipher =
      hash (toElement (Aes.encrypt k .zero).toList) cipher' := by
  simp only [tag] at htag
  exact ofElement_injective <| eq_of_zipWith_xor (by rw [length_ofElement, length_blockList])
    (by rw [length_ofElement, length_blockList]) htag

/-! ### Tagged texts -/

/-- A nonce, a ciphertext and their tag. -/
def tagged (k : Key) (nonce cipher : List UInt8) : List UInt8 :=
  nonce ++ (cipher ++ tag k nonce cipher)

/-- No two tagged texts differ in one place only. -/
theorem eq_of_tagged_set {i : Nat} {b : UInt8} (hk : Aes.encrypt k .zero ≠ .zero)
    (h : nonce.length = 12) (h' : nonce'.length = 12)
    (hset : (tagged k nonce cipher).set i b = tagged k nonce' cipher') :
    nonce = nonce' ∧ cipher = cipher' := by
  unfold tagged at hset
  have hlength : cipher.length = cipher'.length := by
    have hwhole := congrArg List.length hset
    simp only [List.length_set, List.length_append, length_tag, h, h'] at hwhole
    omega
  by_cases hnonce : i < nonce.length
  · rw [List.set_append_left _ _ hnonce] at hset
    obtain ⟨-, hrest⟩ := List.append_inj hset (by rw [List.length_set, h, h'])
    obtain ⟨rfl, htag⟩ := List.append_inj hrest hlength
    exact ⟨eq_of_tag_nonce h h' htag, rfl⟩
  · rw [List.set_append_right _ _ (by omega)] at hset
    obtain ⟨rfl, hrest⟩ := List.append_inj hset (h.trans h'.symm)
    refine ⟨rfl, ?_⟩
    by_cases hcipher : i - nonce.length < cipher.length
    · rw [List.set_append_left _ _ hcipher] at hrest
      obtain ⟨hchanged, htag⟩ := List.append_inj hrest (by rw [List.length_set, hlength])
      have hsame : cipher.set (i - nonce.length) cipher[i - nonce.length] = cipher :=
        List.set_getElem_self hcipher
      have hhash := hash_eq_of_tag htag
      rw [← hchanged, ← hsame, List.set_set] at hhash
      rw [← hchanged, ← hash_set_injective (point_ne_zero hk) hcipher hhash, hsame]
    · rw [List.set_append_right _ _ (by omega)] at hrest
      exact (List.append_inj hrest hlength).1

end ModelGateway.Gcm

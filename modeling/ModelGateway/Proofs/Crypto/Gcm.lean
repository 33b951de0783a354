/-
Only what was sealed opens.

The keystream depends on nothing but key, nonce and place, so adding it twice gives the
text back, whatever the text is and wherever its blocks end.  The tag has a fixed size, so a
sealed text comes apart in one way, and opening computes the very tag that sealing did.
-/
import ModelGateway.Crypto.Gcm

namespace ModelGateway.Gcm

open Aes (Block Key)

variable {k : Key} {nonce bytes text : List UInt8} {n : Nat}

/-! ### The keystream -/

@[simp] theorem length_blockList (b : Block) : b.toList.length = 16 := rfl

/-- The keystream at a counter's value. -/
def stream (k : Key) (nonce : List UInt8) (n : Nat) : List UInt8 :=
  (Aes.encrypt k (counter nonce n)).toList

/-- A text is added to the keystream block by block; the last block may be short, or nothing. -/
theorem addStream_step (k : Key) (nonce : List UInt8) (n : Nat) (bytes : List UInt8) :
    addStream k nonce n bytes =
      List.zipWith (· ^^^ ·) (bytes.take 16) (stream k nonce n) ++
        addStream k nonce (n + 1) (bytes.drop 16) := by
  cases bytes with
  | nil => simp [addStream]
  | cons b bs => rw [addStream, stream]

theorem length_addStream : (addStream k nonce n bytes).length = bytes.length := by
  induction n, bytes using addStream.induct with
  | case1 n => simp [addStream]
  | case2 n b bs ih =>
    rw [addStream_step, List.length_append, ih, List.length_zipWith, List.length_take,
      List.length_drop, stream, length_blockList]
    omega

/-- Adding the same bytes twice changes nothing. -/
theorem zipWith_xor_twice {xs ys : List UInt8} (h : xs.length ≤ ys.length) :
    List.zipWith (· ^^^ ·) (List.zipWith (· ^^^ ·) xs ys) ys = xs := by
  induction xs generalizing ys with
  | nil => simp
  | cons x xs ih =>
    cases ys with
    | nil => simp at h
    | cons y ys =>
      rw [List.zipWith_cons_cons, List.zipWith_cons_cons, ih (by simpa using h),
        UInt8.xor_assoc, UInt8.xor_self, UInt8.xor_zero]

/-- Adding the keystream twice gives the text back. -/
theorem addStream_twice : addStream k nonce n (addStream k nonce n bytes) = bytes := by
  induction n, bytes using addStream.induct with
  | case1 n => simp [addStream]
  | case2 n b bs ih =>
    have hfirst : (((b :: bs).take 16).zipWith (· ^^^ ·) (stream k nonce n)).length =
        min 16 (b :: bs).length := by
      rw [List.length_zipWith, List.length_take, stream, length_blockList]
      omega
    -- the first block of the sum is the sum of the first block
    have hcut : (addStream k nonce n (b :: bs)).take 16 =
          ((b :: bs).take 16).zipWith (· ^^^ ·) (stream k nonce n) ∧
        (addStream k nonce n (b :: bs)).drop 16 =
          addStream k nonce (n + 1) ((b :: bs).drop 16) := by
      rw [addStream_step]
      by_cases hlong : 16 ≤ (b :: bs).length
      · exact ⟨List.take_left' (by omega), List.drop_left' (by omega)⟩
      · have hrest : (b :: bs).drop 16 = [] := List.drop_eq_nil_of_le (by omega)
        have hnil : addStream k nonce (n + 1) [] = [] := by simp [addStream]
        rw [hrest, hnil, List.append_nil]
        exact ⟨List.take_of_length_le (by omega), List.drop_eq_nil_of_le (by omega)⟩
    rw [addStream_step, hcut.1, hcut.2, ih, zipWith_xor_twice, List.take_append_drop]
    rw [List.length_take, stream, length_blockList]
    omega

/-! ### The tag -/

theorem length_tag : (tag k nonce bytes).length = 16 := by
  simp [tag, ofElement]

/-- A sealed text opens under the key and the nonce it was sealed under, and nothing else does. -/
theorem decrypt?_eq_some_iff {sealed : List UInt8} :
    decrypt? k nonce sealed = some text ↔ sealed = encrypt k nonce text := by
  constructor
  · intro h
    unfold decrypt? at h
    split at h
    · cases h
    · simp only at h
      split at h
      · next htag =>
        rw [← Option.some.inj h, encrypt, addStream_twice, ← htag, List.take_append_drop]
      · cases h
  · intro h
    have hlength : sealed.length - 16 = (addStream k nonce 2 text).length := by
      rw [h, encrypt, List.length_append, length_tag, Nat.add_sub_cancel]
    have hlong : ¬ sealed.length < 16 := by
      rw [h, encrypt, List.length_append, length_tag]
      omega
    have hcipher : sealed.take (sealed.length - 16) = addStream k nonce 2 text := by
      rw [hlength, h, encrypt]
      exact List.take_left
    have htag : sealed.drop (sealed.length - 16) = tag k nonce (addStream k nonce 2 text) := by
      rw [hlength, h, encrypt]
      exact List.drop_left
    unfold decrypt?
    rw [if_neg hlong]
    simp only
    rw [hcipher, htag, if_pos rfl, addStream_twice]

theorem length_encrypt : (encrypt k nonce text).length = text.length + 16 := by
  rw [encrypt, List.length_append, length_addStream, length_tag]

end ModelGateway.Gcm

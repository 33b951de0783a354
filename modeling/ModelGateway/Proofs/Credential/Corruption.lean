/-
A token that was changed in one byte.

The bytes behind a token are a nonce, a ciphertext and their tag.  A token opens only if its
bytes are such a string, and two of those never differ in one byte only.  That holds wherever
the byte is, whatever it is changed to and however long the identity is, and it is no matter
of luck; what it takes is a key that does not send the block of zeros to itself.
-/
import ModelGateway.Proofs.Credential.Issue
import ModelGateway.Proofs.Crypto.Tag

namespace ModelGateway.TokenCipher

variable {c : TokenCipher} {nonce : Nonce} {identity token : String}

theorem length_sealed : (c.sealed nonce identity).length =
    nonceSize + (Utf8.encode identity.toList).length + 16 := by
  rw [sealed, List.length_append, Gcm.length_encrypt, nonce.length_bytes, Nat.add_assoc]

/-- A token does not open if its bytes are those of a minted one but for a byte. -/
theorem identity?_of_changed (hkey : Aes.encrypt c.key .zero ≠ .zero)
    {i : Nat} (hi : i < (c.sealed nonce identity).length) {b : UInt8}
    (hb : b ≠ (c.sealed nonce identity)[i])
    (hdecode : Base64.decode (Text.trim token) = .ok ((c.sealed nonce identity).set i b)) :
    c.identity? token = none := by
  refine Option.eq_none_iff_forall_ne_some.mpr fun other hopen => hb ?_
  obtain ⟨nonce', hother⟩ := identity?_eq_some_iff.mp hopen
  have hset : (c.sealed nonce identity).set i b = c.sealed nonce' other :=
    Except.ok.inj (hdecode.symm.trans hother)
  obtain ⟨hnonce, hcipher⟩ :=
    Gcm.eq_of_tagged_set hkey nonce.length_bytes nonce'.length_bytes hset
  have hsame : (c.sealed nonce identity).set i b = c.sealed nonce identity := by
    rw [hnonce] at hcipher
    rw [hset, sealed, sealed, Gcm.encrypt, Gcm.encrypt, hnonce]
    simp only [hcipher]
  have hplace : i < ((c.sealed nonce identity).set i b).length := by rwa [List.length_set]
  calc b = ((c.sealed nonce identity).set i b)[i] := (List.getElem_set_self hplace).symm
    _ = (c.sealed nonce identity)[i] := by simp only [hsame]

/-- **A token that was changed in one byte does not open.**  Behind a minted token there are the
bytes of its nonce, its ciphertext and its tag, and it opens.  With one of those bytes replaced by
any other, wherever it is, it does not: neither as it is written again, nor in any other way of
writing the same bytes; and a gate with the key turns away whoever presents it. -/
theorem changed_byte_never_opens (hkey : Aes.encrypt c.key .zero ≠ .zero)
    (nonce : Nonce) (identity : String) :
    ∃ bytes, Base64.decode (c.mint nonce identity) = .ok bytes ∧
      bytes.length = nonceSize + (Utf8.encode identity.toList).length + 16 ∧
      c.identity? (Base64.encode bytes) = some identity ∧
      ∀ i, ∀ hi : i < bytes.length, ∀ b, b ≠ bytes[i] →
        c.identity? (Base64.encode (bytes.set i b)) = none ∧
        (∀ token, Base64.decode (Text.trim token) = .ok (bytes.set i b) →
          c.identity? token = none) ∧
        ∀ g : Gate, g.cipher = some c → g.mark ≠ "" → ∀ text : String,
          Presents text.toList (g.mark ++ Base64.encode (bytes.set i b)).toList →
            g.verify text = .error .invalid := by
  refine ⟨c.sealed nonce identity, Base64.decode_encode, length_sealed, identity?_mint, ?_⟩
  intro i hi b hb
  have hany : ∀ token,
      Base64.decode (Text.trim token) = .ok ((c.sealed nonce identity).set i b) →
        c.identity? token = none :=
    fun token hdecode => identity?_of_changed hkey hi hb hdecode
  have hwritten : c.identity? (Base64.encode ((c.sealed nonce identity).set i b)) = none :=
    hany _ (by rw [Base64.trim_encode, Base64.decode_encode])
  refine ⟨hwritten, hany, fun g hcipher hmark text hpresents => ?_⟩
  rw [Gate.verify_marked hcipher hpresents hmark String.toList_append, String.ofList_toList,
    hwritten]

/-- The first byte of a ciphertext's second block. -/
theorem changed_byte_never_opens_second_block :
    let c : TokenCipher := ⟨.ofList ((List.range 32).map UInt8.ofNat)⟩
    let nonce : Nonce := ⟨List.replicate 12 7, rfl⟩
    ∃ bytes, Base64.decode (c.mint nonce "alice@example.com") = .ok bytes ∧
      bytes[28]? = some 0xCC ∧ c.identity? (Base64.encode (bytes.set 28 0xCD)) = none := by
  intro c nonce
  have hkey : Aes.encrypt c.key .zero ≠ .zero := by decide +kernel
  obtain ⟨bytes, hdecode, -, -, hchanged⟩ := changed_byte_never_opens hkey nonce "alice@example.com"
  have hbytes : c.sealed nonce "alice@example.com" = bytes :=
    Except.ok.inj (Base64.decode_encode.symm.trans hdecode)
  have hbyte : bytes[28]? = some 0xCC := by
    rw [← hbytes]
    decide +kernel
  obtain ⟨hplace, hvalue⟩ := List.getElem?_eq_some_iff.mp hbyte
  exact ⟨bytes, hdecode, hbyte, (hchanged 28 hplace 0xCD (by rw [hvalue]; decide)).1⟩

end ModelGateway.TokenCipher

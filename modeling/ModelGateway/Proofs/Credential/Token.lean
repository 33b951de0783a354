/-
Which tokens open.

Reading a token undoes the three steps of minting it: letters, cipher, text.  Each of them
gives back what went in and takes nothing else, so a token opens exactly if it was minted
under the same key, for the identity that it opens to.  Blanks around it do not matter, nor
does whether its padding is there.
-/
import ModelGateway.Credential.Token
import ModelGateway.Proofs.Crypto.Gcm
import ModelGateway.Proofs.Lists
import ModelGateway.Proofs.Text.Base64
import ModelGateway.Proofs.Text.Trim

namespace ModelGateway.TokenCipher

variable {c : TokenCipher} {token identity : String}

/-- A nonce is made of its own bytes. -/
theorem Nonce.ofList_bytes (nonce : Nonce) : ofList nonce.bytes = nonce := by
  obtain ⟨bytes, hlength⟩ := nonce
  have hsame : (List.range nonceSize).map (fun i => bytes.getD i 0) = bytes := by
    rw [map_getD_range hlength.ge, ← hlength, List.take_length]
  simp only [ofList, hsame]

/-- The bytes of an identity's token: the nonce, then the sealed identity. -/
def sealed (c : TokenCipher) (nonce : Nonce) (identity : String) : List UInt8 :=
  nonce.bytes ++ Gcm.encrypt c.key nonce.bytes (Utf8.encode identity.toList)

/-- Opening takes the nonce from the front, and the rest has to be what the identity is sealed
as. -/
theorem identity?_eq_some_iff : c.identity? token = some identity ↔
    ∃ nonce, Base64.decode (Text.trim token) = .ok (c.sealed nonce identity) := by
  unfold identity?
  cases hdecode : Base64.decode (Text.trim token) with
  | error e => simp
  | ok bytes =>
    simp only [Except.ok.injEq]
    by_cases hshort : bytes.length ≤ nonceSize
    · rw [if_pos hshort]
      refine iff_of_false (by simp) fun h => ?_
      obtain ⟨nonce, rfl⟩ := h
      rw [sealed, List.length_append, Gcm.length_encrypt, nonce.length_bytes] at hshort
      omega
    · rw [if_neg hshort, Option.bind_eq_some_iff]
      simp only [Gcm.decrypt?_eq_some_iff, Utf8.decodeList?_eq_some_iff]
      constructor
      · intro h
        obtain ⟨text, hsealed, rfl⟩ := h
        refine ⟨⟨bytes.take nonceSize, by rw [List.length_take]; omega⟩, ?_⟩
        rw [sealed, ← hsealed, List.take_append_drop]
      · intro h
        obtain ⟨nonce, rfl⟩ := h
        refine ⟨_, ?_, rfl⟩
        rw [sealed, List.drop_left' nonce.length_bytes, List.take_left' nonce.length_bytes]

/-- **A token opens exactly to the identity it was minted for.**  It opens to an identity if and
only if its letters, without the blanks around them, are those of a nonce and of the identity
sealed under it, that is, if it is a minted token but for padding that is missing and for blanks
around it; and if there is no such identity it does not open.  So what is minted opens again,
under every nonce, with all of its padding, some of it, or none. -/
theorem opens_exactly_what_was_minted (c : TokenCipher) (token : String) :
    (∀ identity : String, c.identity? token = some identity ↔ ∃ nonce : Nonce,
        Base64.decode (Text.trim token) =
          .ok (nonce.bytes ++ Gcm.encrypt c.key nonce.bytes (Utf8.encode identity.toList))) ∧
      (∀ identity, c.identity? token = some identity ↔ ∃ nonce n,
        (c.mint nonce identity).toList = (Text.trim token).toList ++ List.replicate n '=') ∧
      (c.identity? token = none ↔ ∀ nonce : Nonce, ∀ identity : String,
        Base64.decode (Text.trim token) ≠
          .ok (nonce.bytes ++ Gcm.encrypt c.key nonce.bytes (Utf8.encode identity.toList))) ∧
      ∀ nonce identity bare n, (c.mint nonce identity).toList = bare ++ List.replicate n '=' →
        c.identity? (String.ofList bare) = some identity := by
  have hminted : ∀ token identity, c.identity? token = some identity ↔ ∃ nonce n,
      (c.mint nonce identity).toList = (Text.trim token).toList ++ List.replicate n '=' := by
    intro token identity
    rw [identity?_eq_some_iff]
    refine exists_congr fun nonce => ?_
    rw [Base64.decode_eq_ok_iff, mint, Base64.encode, String.toList_ofList]
    rfl
  refine ⟨fun identity => identity?_eq_some_iff, hminted token, ?_, ?_⟩
  · rw [Option.eq_none_iff_forall_ne_some]
    constructor
    · intro h nonce identity hdecode
      exact h identity (identity?_eq_some_iff.mpr ⟨nonce, hdecode⟩)
    · intro h identity hopen
      obtain ⟨nonce, hdecode⟩ := identity?_eq_some_iff.mp hopen
      exact h nonce identity hdecode
  · intro nonce identity bare n hbare
    have hplain : Text.trim (String.ofList bare) = String.ofList bare := by
      refine Text.trim_of_no_blank fun ch hch => ?_
      rw [String.toList_ofList] at hch
      have hmem : ch ∈ (c.mint nonce identity).toList := by
        rw [hbare]
        exact List.mem_append_left _ hch
      rw [mint, Base64.encode, String.toList_ofList] at hmem
      exact Base64.not_blank_of_mem_write hmem
    refine (hminted _ _).mpr ⟨nonce, n, ?_⟩
    rw [hplain, String.toList_ofList]
    exact hbare

end ModelGateway.TokenCipher

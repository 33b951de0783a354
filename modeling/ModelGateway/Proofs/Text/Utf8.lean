/-
Texts and their bytes.

What is sent is bytes, and what is meant is text.  The bytes are those of core's encoder,
which its decoder reads back, so nothing about a text is lost in them.
-/
import ModelGateway.Text.Utf8

namespace ModelGateway.Utf8

theorem encode_append (a b : List Char) : encode (a ++ b) = encode a ++ encode b :=
  List.flatMap_append

/-- Texts with the same bytes are the same. -/
theorem encode_inj {a b : List Char} (h : encode a = encode b) : a = b := by
  have hbytes : a.utf8Encode = b.utf8Encode := congrArg List.toByteArray h
  have hread : some a.toArray = some b.toArray := by
    rw [← List.utf8Decode?_utf8Encode, ← List.utf8Decode?_utf8Encode, hbytes]
  exact List.toArray_inj (Option.some.inj hread)

/-- Bytes spell the text that they are the bytes of, and nothing else is spelt. -/
theorem decodeList?_eq_some_iff {bytes : List UInt8} {s : String} :
    decodeList? bytes = some s ↔ bytes = encode s.toList := by
  have hbytes : (⟨bytes.toArray⟩ : ByteArray) = bytes.toByteArray := ByteArray.ext (by simp)
  have htext : s.toByteArray = (encode s.toList).toByteArray := String.utf8Encode_toList.symm
  rw [decodeList?, decode?, String.fromUTF8?, hbytes]
  constructor
  · intro h
    split at h
    · next hvalid =>
      have hs : s.toByteArray = bytes.toByteArray := by rw [← Option.some.inj h]; rfl
      exact List.toByteArray_inj.mp (hs.symm.trans htext)
    · cases h
  · intro h
    rw [h, ← htext, dif_pos s.isValidUTF8]
    exact congrArg some (String.toByteArray_inj.mp rfl)

end ModelGateway.Utf8

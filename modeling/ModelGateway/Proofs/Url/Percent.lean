/-
What percent-encoding leaves.

Encoded text holds characters that its part of an address may hold: those of the text
that could stay, and those that an escape is spelled with.  A text of such characters
stays as it is when it is encoded again.
-/
import ModelGateway.Url.Percent

namespace ModelGateway.Url

variable {set : EncodeSet} {cs : List Char} {c : Char}

/-- A part of an address holds the character as it is. -/
def Keeps (set : EncodeSet) (c : Char) : Prop := c.toNat < 0x80 ∧ set c = false

/-- The characters that an escape is spelled with. -/
def escapeChars : List Char := '%' :: "0123456789ABCDEF".toList

theorem hexUpper_mem : ∀ n < 16, Text.hexUpper n ∈ escapeChars := by decide

theorem mem_encodeByte {b : UInt8} (h : c ∈ encodeByte b) : c ∈ escapeChars := by
  have hb := b.toNat_lt
  simp only [encodeByte, List.mem_cons, List.not_mem_nil, or_false] at h
  rcases h with rfl | rfl | rfl
  · simp [escapeChars]
  · exact hexUpper_mem _ (by omega)
  · exact hexUpper_mem _ (by omega)

theorem mem_percentEncode (h : c ∈ percentEncode set cs) :
    (c ∈ cs ∧ Keeps set c) ∨ c ∈ escapeChars := by
  obtain ⟨x, hx, hc⟩ := List.mem_flatMap.mp h
  unfold encodeChar at hc
  split at hc
  · next hkeep =>
    have hcx : c = x := by simpa using hc
    rw [hcx]
    refine Or.inl ⟨hx, ?_⟩
    simpa [Keeps] using hkeep
  · obtain ⟨b, -, hb⟩ := List.mem_flatMap.mp hc
    exact Or.inr (mem_encodeByte hb)

/-- A text of characters that can stay is its own encoding. -/
theorem percentEncode_of_keeps (h : ∀ c ∈ cs, Keeps set c) : percentEncode set cs = cs := by
  unfold percentEncode
  induction cs with
  | nil => rfl
  | cons c cs ih =>
    obtain ⟨hlow, hset⟩ := h c (by simp)
    rw [List.flatMap_cons, ih fun x hx => h x (by simp [hx]), encodeChar]
    simp [hlow, hset]

end ModelGateway.Url

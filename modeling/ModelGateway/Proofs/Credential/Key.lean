/-
Which texts are keys.

The 256 bits of a key fill 42 symbols and four bits of one more, so its text has 43 symbols, the
last of them with two bits to spare, and one mark of padding fits behind them.  Spare bits that
are not zero would make several texts of one key; they are refused, and so is everything else
but blanks around the text.
-/
import Mathlib.Data.Bool.AllAny
import ModelGateway.Proofs.Credential.Token
import ModelGateway.Proofs.Crypto.Aes
import ModelGateway.Proofs.Text.Bits

namespace ModelGateway.TokenCipher

variable {c : TokenCipher} {text : String} {symbols : List Char} {bytes : List UInt8}

/-- Symbols that are a key: 43 of them, with zeros for the spare bits of the last. -/
structure IsKeyText (symbols : List Char) : Prop where
  known : ∀ ch ∈ symbols, ch ∈ Base64.alphabet
  size : symbols.length = 43
  spare : ∀ ch ∈ symbols.getLast?, Base64.alphabet.idxOf ch % 4 = 0

/-- A text is these symbols, or these and one mark of padding, but for blanks around them. -/
def Shows (text : String) (symbols : List Char) : Prop :=
  Text.Trimmed text.toList symbols ∨ Text.Trimmed text.toList (symbols ++ ['='])

/-! ### Keys and their symbols -/

theorem missing_toList (key : Aes.Key) : Base64.missing key.toList = 1 := by
  rw [Base64.missing, Aes.Key.length_toList]

/-- The symbols that spell a key are those with its bits and two zeros behind them. -/
theorem spells_key_iff {key : Aes.Key} : Base64.Spells symbols key.toList ↔
    IsKeyText symbols ∧
      Base64.symbolBits symbols = Base64.byteBits key.toList ++ [false, false] := by
  have hzeros : List.replicate (2 * Base64.missing key.toList) false = [false, false] := by
    rw [missing_toList]
    rfl
  constructor
  · intro h
    have hbits := h.same
    rw [hzeros] at hbits
    have hsize : symbols.length = 43 := by
      have hlength := congrArg List.length hbits
      rw [List.length_append, Base64.length_symbolBits, Base64.length_byteBits,
        Aes.Key.length_toList] at hlength
      simp only [List.length_cons, List.length_nil] at hlength
      omega
    refine ⟨⟨h.known, hsize, fun ch hch => ?_⟩, hbits⟩
    obtain ⟨front, hfront⟩ := List.getLast?_eq_some_iff.mp hch
    rw [hfront] at hbits
    exact Base64.ends_in_zeros_iff.mp ⟨_, hbits⟩
  · intro h
    obtain ⟨hkey, hbits⟩ := h
    exact ⟨hkey.known, by rw [hbits, hzeros]⟩

/-- Such symbols are always those of a key. -/
theorem IsKeyText.exists_key (h : IsKeyText symbols) :
    ∃ key : Aes.Key, Base64.Spells symbols key.toList := by
  obtain ⟨front, ch, rfl⟩ : ∃ front ch, symbols = front ++ [ch] := by
    have hne : symbols ≠ [] := List.ne_nil_of_length_pos (by rw [h.size]; decide)
    exact ⟨_, _, (List.dropLast_append_getLast hne).symm⟩
  obtain ⟨l, hl⟩ := Base64.ends_in_zeros_iff.mpr (h.spare ch (by simp))
  have hlength : l.length = 8 * 32 := by
    have hbits := congrArg List.length hl
    rw [Base64.length_symbolBits, h.size, List.length_append] at hbits
    simp only [List.length_cons, List.length_nil] at hbits
    omega
  obtain ⟨bytes, hbytes, rfl⟩ := Base64.exists_byteBits hlength
  refine ⟨.ofList bytes, spells_key_iff.mpr ⟨h, ?_⟩⟩
  rw [Aes.Key.toList_ofList hbytes, hl]

/-! ### Reading a key -/

/-- Nothing but 32 bytes is taken, and all of them are kept. -/
theorem ofText_eq_ok_iff :
    ofText text = .ok c ↔ Base64.decode (Text.trim text) = .ok c.key.toList := by
  rw [ofText]
  cases Base64.decode (Text.trim text) with
  | error e => simp
  | ok bytes =>
    simp only [Except.ok.injEq]
    constructor
    · intro h
      split at h
      · next hsize =>
        rw [← Except.ok.inj h]
        exact (Aes.Key.toList_ofList hsize).symm
      · cases h
    · intro h
      have hsize : c.key.toList.length = keySize := Aes.Key.length_toList c.key
      rw [h, if_pos hsize, Aes.Key.ofList_toList]

theorem ofText_eq_ok_iff_spells :
    ofText text = .ok c ↔ ∃ symbols, Base64.Spells symbols c.key.toList ∧ Shows text symbols := by
  rw [ofText_eq_ok_iff, Base64.decode_eq_ok_iff_spells, missing_toList]
  apply exists_congr
  intro symbols
  rw [Shows, Text.trimmed_iff, Text.trimmed_iff]
  constructor
  · intro h
    obtain ⟨k, hspells, hk, htext⟩ := h
    rcases Nat.le_one_iff_eq_zero_or_eq_one.mp hk with rfl | rfl
    · exact ⟨hspells, Or.inl (htext.trans (List.append_nil symbols))⟩
    · exact ⟨hspells, Or.inr htext⟩
  · intro h
    rcases h with ⟨hspells, hbare | hpadded⟩
    · exact ⟨0, hspells, Nat.zero_le 1, hbare.trans (List.append_nil symbols).symm⟩
    · exact ⟨1, hspells, Nat.le_refl 1, hpadded⟩

/-- Symbols and padding have no blanks around them. -/
theorem shows_ofList (h : ∀ ch ∈ symbols, ch ∈ Base64.alphabet) :
    Shows (String.ofList symbols) symbols ∧ Shows (String.ofList (symbols ++ ['='])) symbols := by
  have hkept : ∀ ch ∈ symbols ++ ['='], Text.isBlank ch = false := by
    intro ch hch
    rcases List.mem_append.mp hch with hsymbol | hpad
    · exact Base64.not_blank_of_mem_alphabet (h ch hsymbol)
    · rw [List.mem_singleton.mp hpad]
      decide
  rw [Shows, Shows, String.toList_ofList, String.toList_ofList]
  refine ⟨Or.inl (Text.trimmed_of_no_blank ?_), Or.inr (Text.trimmed_of_no_blank hkept)⟩
  exact fun ch hch => hkept ch (List.mem_append_left _ hch)

/-- A text no longer than the symbols it shows is these symbols. -/
theorem Shows.toList_eq (h : Shows text symbols) (hlength : text.toList.length = symbols.length) :
    text.toList = symbols := by
  rcases h with hbare | hpadded
  · obtain ⟨before, behind, htext, -, -⟩ := hbare.around
    rw [htext, List.length_append, List.length_append] at hlength
    have hbefore : before = [] := List.eq_nil_of_length_eq_zero (by omega)
    have hbehind : behind = [] := List.eq_nil_of_length_eq_zero (by omega)
    rw [htext, hbefore, hbehind, List.nil_append, List.append_nil]
  · obtain ⟨before, behind, htext, -, -⟩ := hpadded.around
    rw [htext] at hlength
    simp only [List.length_append, List.length_cons, List.length_nil] at hlength
    omega

/-- **Keys and their texts.**  A text is read as a key exactly if, but for blanks around it, it is
43 symbols of the alphabet that is safe in addresses, the last of them with zeros for its two
spare bits, and perhaps one mark of padding behind them; and the key is the 32 bytes whose bits
these symbols have.  Every other text is refused.  Every key can be written with padding, as it
is when it is made, and without, and no two texts of 43 symbols are the same key. -/
theorem ofText_reads_key_texts :
    (∀ text c, ofText text = .ok c ↔ ∃ symbols, IsKeyText symbols ∧ Shows text symbols ∧
      Base64.symbolBits symbols = Base64.byteBits c.key.toList ++ [false, false]) ∧
    (∀ text, (∃ c, ofText text = .ok c) ↔ ∃ symbols, IsKeyText symbols ∧ Shows text symbols) ∧
    (∀ text, (¬ ∃ symbols, IsKeyText symbols ∧ Shows text symbols) →
      ∃ e, ofText text = .error e) ∧
    (∀ key : Aes.Key, ∃ symbols, IsKeyText symbols ∧
      Base64.encode key.toList = String.ofList (symbols ++ ['=']) ∧
      ofText (String.ofList (symbols ++ ['='])) = .ok ⟨key⟩ ∧
      ofText (String.ofList symbols) = .ok ⟨key⟩) ∧
    ∀ text text' c, text.toList.length = 43 → text'.toList.length = 43 →
      ofText text = .ok c → ofText text' = .ok c → text = text' := by
  have hreads : ∀ text c, ofText text = .ok c ↔ ∃ symbols, IsKeyText symbols ∧
      Shows text symbols ∧
      Base64.symbolBits symbols = Base64.byteBits c.key.toList ++ [false, false] := by
    intro text c
    rw [ofText_eq_ok_iff_spells]
    refine exists_congr fun symbols => ?_
    rw [spells_key_iff, and_assoc, and_comm (b := Shows text symbols)]
  have haccepts : ∀ text, (∃ c, ofText text = .ok c) ↔
      ∃ symbols, IsKeyText symbols ∧ Shows text symbols := by
    intro text
    constructor
    · intro h
      obtain ⟨c, h⟩ := h
      obtain ⟨symbols, hkey, hshows, -⟩ := (hreads text c).mp h
      exact ⟨symbols, hkey, hshows⟩
    · intro h
      obtain ⟨symbols, hkey, hshows⟩ := h
      obtain ⟨key, hspells⟩ := hkey.exists_key
      exact ⟨⟨key⟩, ofText_eq_ok_iff_spells.mpr ⟨symbols, hspells, hshows⟩⟩
  refine ⟨hreads, haccepts, ?_, ?_, ?_⟩
  · intro text hnone
    cases hread : ofText text with
    | error e => exact ⟨e, rfl⟩
    | ok c => exact absurd ((haccepts text).mp ⟨c, hread⟩) hnone
  · intro key
    obtain ⟨symbols, hspells, hwrite⟩ := Base64.write_spells key.toList
    obtain ⟨hbare, hpadded⟩ := shows_ofList hspells.known
    rw [missing_toList] at hwrite
    exact ⟨symbols, (spells_key_iff.mp hspells).1, congrArg String.ofList hwrite,
      ofText_eq_ok_iff_spells.mpr ⟨symbols, hspells, hpadded⟩,
      ofText_eq_ok_iff_spells.mpr ⟨symbols, hspells, hbare⟩⟩
  · intro text text' c hlength hlength' h h'
    obtain ⟨symbols, hspells, hshows⟩ := ofText_eq_ok_iff_spells.mp h
    obtain ⟨symbols', hspells', hshows'⟩ := ofText_eq_ok_iff_spells.mp h'
    have hsize := (spells_key_iff.mp hspells).1.size
    have hsame : symbols' = symbols := hspells'.unique hspells
    rw [hsame] at hshows'
    exact String.toList_inj.mp ((hshows.toList_eq (hlength.trans hsize.symm)).trans
      (hshows'.toList_eq (hlength'.trans hsize.symm)).symm)

/-- A key without padding, and with padding and blanks around it. -/
theorem ofText_reads_either_spelling :
    let symbols := "saMmbffqDb0ZeqJM4abNz4gKV4PFzqz2gmeoGNiRo3I".toList
    IsKeyText symbols ∧ (∃ c, ofText (String.ofList symbols) = .ok c) ∧
      ∃ c, ofText (String.ofList (' ' :: symbols ++ ['=', '\n'])) = .ok c := by
  intro symbols
  have hlast : symbols.getLast? = some 'I' := by decide
  have hkey : IsKeyText symbols := by
    refine ⟨List.all_iff_forall_prop.mp (by decide), rfl, fun ch hch => ?_⟩
    obtain rfl : 'I' = ch := Option.some.inj (hlast.symm.trans hch)
    decide
  obtain ⟨hbare, -⟩ := shows_ofList hkey.known
  have hblanks : Shows (String.ofList (' ' :: symbols ++ ['=', '\n'])) symbols := by
    have hpadded : Text.Trimmed (symbols ++ ['=']) (symbols ++ ['=']) :=
      Text.trimmed_of_no_blank (List.all_iff_forall_prop.mp (by decide))
    rw [Shows, String.toList_ofList]
    exact Or.inr ⟨⟨[' '], ['\n'], rfl, List.forall_mem_singleton.mpr (by decide),
      List.forall_mem_singleton.mpr (by decide)⟩, hpadded.starts, hpadded.ends⟩
  exact ⟨hkey, (ofText_reads_key_texts.2.1 _).mpr ⟨symbols, hkey, hbare⟩,
    (ofText_reads_key_texts.2.1 _).mpr ⟨symbols, hkey, hblanks⟩⟩

/-- A last symbol with a spare bit set is told apart from the one without. -/
example : ofText "saMmbffqDb0ZeqJM4abNz4gKV4PFzqz2gmeoGNiRo3J" =
    .error (.undecodable (.lastSymbol 0x4A 42)) := by
  decide +kernel

end ModelGateway.TokenCipher

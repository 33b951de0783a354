/-
Base 64 as a string of bits.

A symbol of the alphabet stands for six bits and a byte for eight.  Writing bytes cuts their
bits into sixes and fills up the last of them with zeros, two for every byte that a multiple of
three is short of, and as many marks of padding are put behind it.  Symbols can be told from
their bits, so no other symbols are written for these bytes, and none but they are read as them.
-/
import Mathlib.Algebra.Ring.Nat
import Mathlib.Data.List.Basic
import ModelGateway.Proofs.Text.Base64

namespace ModelGateway.Base64

variable {v w m n : Nat} {values : List Nat} {bytes : List UInt8} {symbols symbols' : List Char} {ch : Char}

/-! ### Bits of numbers -/

/-- The lowest bits of a number, as many as asked for and the highest first. -/
def bits : Nat → Nat → List Bool
  | 0, _ => []
  | width + 1, n => n.testBit width :: bits width n

theorem length_bits (w n : Nat) : (bits w n).length = w := by
  induction w with
  | zero => rfl
  | succ w ih => rw [bits, List.length_cons, ih]

/-- The higher bits stand before the lower ones. -/
theorem bits_add (v w n : Nat) : bits (v + w) n = bits v (n / 2 ^ w) ++ bits w n := by
  induction v with
  | zero => rw [Nat.zero_add, bits, List.nil_append]
  | succ v ih =>
    rw [Nat.succ_add, bits, bits, ih, Nat.testBit_div_two_pow, List.cons_append]

/-- The lowest bits tell a number up to a multiple of what they cannot hold, and nothing more. -/
theorem bits_eq_iff : bits w m = bits w n ↔ m % 2 ^ w = n % 2 ^ w := by
  induction w with
  | zero => simp [bits, Nat.mod_one]
  | succ w ih =>
    rw [bits, bits, List.cons.injEq, ih, Nat.pow_succ, Nat.mod_mul, Nat.mod_mul,
      Nat.testBit_eq_decide_div_mod_eq, Nat.testBit_eq_decide_div_mod_eq, decide_eq_decide]
    have hm : m % 2 ^ w < 2 ^ w := Nat.mod_lt _ (Nat.two_pow_pos w)
    have hn : n % 2 ^ w < 2 ^ w := Nat.mod_lt _ (Nat.two_pow_pos w)
    rcases Nat.mod_two_eq_zero_or_one (m / 2 ^ w) with hmtop | hmtop <;>
      rcases Nat.mod_two_eq_zero_or_one (n / 2 ^ w) with hntop | hntop <;>
      simp [hmtop, hntop] <;> omega

/-- Numbers side by side. -/
theorem bits_append (h : n < 2 ^ w) : bits v m ++ bits w n = bits (v + w) (m * 2 ^ w + n) := by
  have hhigh : (m * 2 ^ w + n) / 2 ^ w = m := by
    rw [Nat.add_comm, Nat.add_mul_div_right _ _ (Nat.two_pow_pos w), Nat.div_eq_of_lt h,
      Nat.zero_add]
  have hlow : bits w (m * 2 ^ w + n) = bits w n :=
    bits_eq_iff.mpr (Nat.mul_add_mod_self_right m (2 ^ w) n)
  rw [bits_add, hhigh, hlow]

theorem exists_bits (l : List Bool) : ∃ n < 2 ^ l.length, bits l.length n = l := by
  induction l with
  | nil => exact ⟨0, Nat.one_pos, rfl⟩
  | cons b l ih =>
    obtain ⟨n, hn, hl⟩ := ih
    have hfirst : bits 1 b.toNat = [b] := by cases b <;> rfl
    refine ⟨b.toNat * 2 ^ l.length + n, ?_, ?_⟩
    · rw [List.length_cons, Nat.pow_succ]
      cases b <;> simp <;> omega
    · rw [List.length_cons, Nat.add_comm l.length 1, ← bits_append hn, hfirst, hl]
      rfl

/-! ### Bits of bytes -/

/-- The bits of bytes, eight of each. -/
def byteBits (bytes : List UInt8) : List Bool := bytes.flatMap fun b => bits 8 b.toNat

theorem byteBits_cons (b : UInt8) (bytes : List UInt8) :
    byteBits (b :: bytes) = bits 8 b.toNat ++ byteBits bytes := rfl

theorem length_byteBits (bytes : List UInt8) : (byteBits bytes).length = 8 * bytes.length := by
  induction bytes with
  | nil => rfl
  | cons b bytes ih =>
    rw [byteBits_cons, List.length_append, length_bits, ih, List.length_cons]
    omega

/-- Bits in eights are those of bytes. -/
theorem exists_byteBits {l : List Bool} (h : l.length = 8 * n) :
    ∃ bytes, bytes.length = n ∧ byteBits bytes = l := by
  induction n generalizing l with
  | zero => exact ⟨[], rfl, (List.eq_nil_of_length_eq_zero h).symm⟩
  | succ n ih =>
    have hlength : (l.take 8).length = 8 := by rw [List.length_take]; omega
    obtain ⟨k, hk, hfirst⟩ := exists_bits (l.take 8)
    rw [hlength] at hk hfirst
    obtain ⟨bytes, hcount, hrest⟩ := ih (l := l.drop 8) (by rw [List.length_drop]; omega)
    refine ⟨UInt8.ofNat k :: bytes, by rw [List.length_cons, hcount], ?_⟩
    rw [byteBits_cons, UInt8.toNat_ofNat_of_lt' hk, hfirst, hrest, List.take_append_drop]

/-! ### Bits of symbols -/

/-- The symbols that are safe in addresses, in the order of their values. -/
def alphabet : List Char :=
  "ABCDEFGHIJKLMNOPQRSTUVWXYZabcdefghijklmnopqrstuvwxyz0123456789-_".toList

theorem mem_alphabet_iff : ch ∈ alphabet ↔ ∃ n < 64, symbol n = ch := by
  have hsymbols : alphabet = (List.range 64).map symbol := by decide +kernel
  rw [hsymbols, List.mem_map]
  simp only [List.mem_range]

theorem pad_not_mem_alphabet : '=' ∉ alphabet := by decide

theorem not_blank_of_mem_alphabet (h : ch ∈ alphabet) : Text.isBlank ch = false := by
  obtain ⟨n, hn, rfl⟩ := mem_alphabet_iff.mp h
  exact symbol_not_blank hn

theorem idxOf_symbol (h : n < 64) : alphabet.idxOf (symbol n) = n := by
  have hall : ∀ m : Fin 64, alphabet.idxOf (symbol m) = m.val := by decide +kernel
  exact hall ⟨n, h⟩

theorem idxOf_lt (h : ch ∈ alphabet) : alphabet.idxOf ch < 64 := List.idxOf_lt_length_of_mem h

/-- The bits of symbols, six of each. -/
def symbolBits (symbols : List Char) : List Bool :=
  symbols.flatMap fun ch => bits 6 (alphabet.idxOf ch)

theorem symbolBits_cons (ch : Char) (symbols : List Char) :
    symbolBits (ch :: symbols) = bits 6 (alphabet.idxOf ch) ++ symbolBits symbols := rfl

theorem length_symbolBits (symbols : List Char) :
    (symbolBits symbols).length = 6 * symbols.length := by
  induction symbols with
  | nil => rfl
  | cons ch symbols ih =>
    rw [symbolBits_cons, List.length_append, length_bits, ih, List.length_cons]
    omega

theorem symbolBits_append (symbols symbols' : List Char) :
    symbolBits (symbols ++ symbols') = symbolBits symbols ++ symbolBits symbols' :=
  List.flatMap_append

theorem map_symbol_mem (h : ∀ v ∈ values, v < 64) : ∀ ch ∈ values.map symbol, ch ∈ alphabet := by
  intro ch hch
  obtain ⟨v, hv, rfl⟩ := List.mem_map.mp hch
  exact mem_alphabet_iff.mpr ⟨v, h v hv, rfl⟩

theorem symbolBits_map (h : ∀ v ∈ values, v < 64) :
    symbolBits (values.map symbol) = values.flatMap (bits 6) := by
  induction values with
  | nil => rfl
  | cons v values ih =>
    obtain ⟨hv, hvalues⟩ := List.forall_mem_cons.mp h
    rw [List.map_cons, symbolBits_cons, idxOf_symbol hv, ih hvalues, List.flatMap_cons]

/-- Symbols with the same bits are the same. -/
theorem symbolBits_inj (hs : ∀ ch ∈ symbols, ch ∈ alphabet) (hs' : ∀ ch ∈ symbols', ch ∈ alphabet)
    (h : symbolBits symbols = symbolBits symbols') : symbols = symbols' := by
  have hlength : symbols.length = symbols'.length := by
    have hbits := congrArg List.length h
    rw [length_symbolBits, length_symbolBits] at hbits
    omega
  induction symbols generalizing symbols' with
  | nil => exact (List.eq_nil_of_length_eq_zero hlength.symm).symm
  | cons ch symbols ih =>
    obtain ⟨ch', rest, rfl⟩ : ∃ ch' rest, symbols' = ch' :: rest :=
      List.exists_cons_of_length_pos (by rw [← hlength]; simp)
    obtain ⟨hch, hrest⟩ := List.forall_mem_cons.mp hs
    obtain ⟨hch', hrest'⟩ := List.forall_mem_cons.mp hs'
    rw [symbolBits_cons, symbolBits_cons] at h
    obtain ⟨hfirst, hbits⟩ := List.append_inj h (by rw [length_bits, length_bits])
    have hvalue : alphabet.idxOf ch = alphabet.idxOf ch' := by
      have hmod : alphabet.idxOf ch % 64 = alphabet.idxOf ch' % 64 := bits_eq_iff.mp hfirst
      rwa [Nat.mod_eq_of_lt (idxOf_lt hch), Nat.mod_eq_of_lt (idxOf_lt hch')] at hmod
    rw [(List.idxOf_inj hch).mp hvalue, ih hrest hrest' hbits (Nat.succ.inj hlength)]

/-- The bits end in two zeros if the value of the last symbol is a multiple of four. -/
theorem ends_in_zeros_iff :
    (∃ l, symbolBits (symbols ++ [ch]) = l ++ [false, false]) ↔ alphabet.idxOf ch % 4 = 0 := by
  have hcut : symbolBits (symbols ++ [ch]) =
      (symbolBits symbols ++ bits 4 (alphabet.idxOf ch / 4)) ++ bits 2 (alphabet.idxOf ch) := by
    have hlast : symbolBits [ch] =
        bits 4 (alphabet.idxOf ch / 4) ++ bits 2 (alphabet.idxOf ch) := by
      rw [symbolBits_cons]
      exact (List.append_nil _).trans (bits_add 4 2 _)
    rw [symbolBits_append, hlast, List.append_assoc]
  have hzeros : bits 2 (alphabet.idxOf ch) = [false, false] ↔ alphabet.idxOf ch % 4 = 0 :=
    bits_eq_iff (n := 0)
  rw [← hzeros, hcut]
  constructor
  · intro h
    obtain ⟨l, h⟩ := h
    exact (List.append_inj' h (length_bits 2 _)).2
  · intro h
    exact ⟨_, by rw [h]⟩

/-! ### Bytes as symbols -/

/-- How many bytes are missing to a multiple of three. -/
def missing (bytes : List UInt8) : Nat := (3 - bytes.length % 3) % 3

/-- The symbols have the bits of the bytes, filled up with zeros. -/
structure Spells (symbols : List Char) (bytes : List UInt8) : Prop where
  known : ∀ ch ∈ symbols, ch ∈ alphabet
  same : symbolBits symbols = byteBits bytes ++ List.replicate (2 * missing bytes) false

theorem Spells.not_pad (h : Spells symbols bytes) : ∀ ch ∈ symbols, ch ≠ '=' := by
  intro ch hch hpad
  rw [hpad] at hch
  exact pad_not_mem_alphabet (h.known _ hch)

/-- No bytes are spelled in two ways. -/
theorem Spells.unique (h : Spells symbols bytes) (h' : Spells symbols' bytes) :
    symbols = symbols' :=
  symbolBits_inj h.known h'.known (h.same.trans h'.same.symm)

/-- Three bytes and their four values are the same 24 bits. -/
theorem bits_three (a b c : UInt8) :
    let n := (a.toNat * 256 + b.toNat) * 256 + c.toNat
    [n / 262144, n / 4096 % 64, n / 64 % 64, n % 64].flatMap (bits 6) = byteBits [a, b, c] := by
  intro n
  obtain ⟨-, hy, hz, hw⟩ : n / 262144 < 64 ∧ n / 4096 % 64 < 64 ∧ n / 64 % 64 < 64 ∧ n % 64 < 64 :=
    values_lt a b c
  simp only [byteBits, List.flatMap_cons, List.flatMap_nil, List.append_nil, ← List.append_assoc]
  rw [bits_append hy, bits_append hz, bits_append hw, bits_append b.toNat_lt,
    bits_append c.toNat_lt]
  congr 1
  omega

/-- Two bytes fill three values but for two bits. -/
theorem bits_two (a b : UInt8) :
    let n := (a.toNat * 256 + b.toNat) * 4
    [n / 4096, n / 64 % 64, n % 64].flatMap (bits 6) = byteBits [a, b] ++ bits 2 0 := by
  intro n
  obtain ⟨-, hy, hz⟩ : n / 4096 < 64 ∧ n / 64 % 64 < 64 ∧ n % 64 < 64 := values_lt_two a b
  simp only [byteBits, List.flatMap_cons, List.flatMap_nil, List.append_nil, ← List.append_assoc]
  rw [bits_append hy, bits_append hz, bits_append b.toNat_lt, bits_append (Nat.two_pow_pos 2)]
  congr 1
  omega

/-- One byte fills two values but for four bits. -/
theorem bits_one (a : UInt8) :
    let n := a.toNat * 16
    [n / 64, n % 64].flatMap (bits 6) = byteBits [a] ++ bits 4 0 := by
  intro n
  obtain ⟨-, hy⟩ : n / 64 < 64 ∧ n % 64 < 64 := values_lt_one a
  simp only [byteBits, List.flatMap_cons, List.flatMap_nil, List.append_nil]
  rw [bits_append hy, bits_append (Nat.two_pow_pos 4)]
  congr 1
  omega

/-- What is written spells the bytes, and has a mark of padding for every byte that is missing. -/
theorem write_spells (bytes : List UInt8) :
    ∃ symbols, Spells symbols bytes ∧
      write bytes = symbols ++ List.replicate (missing bytes) '=' := by
  induction bytes using write.induct with
  | case1 a b c rest ih =>
    obtain ⟨symbols, hspells, hwrite⟩ := ih
    let n := (a.toNat * 256 + b.toNat) * 256 + c.toNat
    have hvalues : ∀ v ∈ [n / 262144, n / 4096 % 64, n / 64 % 64, n % 64], v < 64 := by
      simpa using values_lt a b c
    have hmissing : missing (a :: b :: c :: rest) = missing rest := by
      simp only [missing, List.length_cons]
      omega
    refine ⟨[n / 262144, n / 4096 % 64, n / 64 % 64, n % 64].map symbol ++ symbols, ⟨?_, ?_⟩, ?_⟩
    · exact List.forall_mem_append.mpr ⟨map_symbol_mem hvalues, hspells.known⟩
    · rw [symbolBits_append, symbolBits_map hvalues, hspells.same, hmissing, bits_three,
        ← List.append_assoc]
      rfl
    · rw [write, hwrite, hmissing]
      rfl
  | case2 a b =>
    let n := (a.toNat * 256 + b.toNat) * 4
    have hvalues : ∀ v ∈ [n / 4096, n / 64 % 64, n % 64], v < 64 := by
      simpa using values_lt_two a b
    exact ⟨[n / 4096, n / 64 % 64, n % 64].map symbol,
      ⟨map_symbol_mem hvalues, (symbolBits_map hvalues).trans (bits_two a b)⟩, rfl⟩
  | case3 a =>
    let n := a.toNat * 16
    have hvalues : ∀ v ∈ [n / 64, n % 64], v < 64 := by simpa using values_lt_one a
    exact ⟨[n / 64, n % 64].map symbol,
      ⟨map_symbol_mem hvalues, (symbolBits_map hvalues).trans (bits_one a)⟩, rfl⟩
  | case4 => exact ⟨[], ⟨by simp, rfl⟩, rfl⟩

/-- A text is read as bytes exactly if it spells them, with no more padding behind it than is
written. -/
theorem decode_eq_ok_iff_spells {text : String} :
    decode text = .ok bytes ↔ ∃ symbols k, Spells symbols bytes ∧ k ≤ missing bytes ∧
      text.toList = symbols ++ List.replicate k '=' := by
  obtain ⟨written, hspells, hwrite⟩ := write_spells bytes
  rw [decode_eq_ok_iff, hwrite]
  constructor
  · intro h
    obtain ⟨n, h⟩ := h
    obtain ⟨k, hk, htext⟩ := eq_symbols_pads hspells.not_pad h
    exact ⟨written, k, hspells, by omega, htext⟩
  · intro h
    obtain ⟨symbols, k, hsame, hk, htext⟩ := h
    refine ⟨missing bytes - k, ?_⟩
    rw [htext, hsame.unique hspells, List.append_assoc, List.replicate_append_replicate,
      Nat.add_sub_of_le hk]

end ModelGateway.Base64

/-
Base 64 is read as it is written.

Every symbol is one byte of the text, so reading is compared with writing byte by byte.
Three bytes and four symbols are the same 24 bits, cut differently; at the end the bits
left over are checked to be zero, so a text that can be read is what its bytes are written
as, and only its padding may be shorter.
-/
import ModelGateway.Proofs.Result
import ModelGateway.Proofs.Text.Trim
import ModelGateway.Proofs.Text.Utf8
import ModelGateway.Text.Base64

namespace ModelGateway.Base64

variable {a b c d : UInt8} {n m offset : Nat} {bytes input : List UInt8}

/-! ### Symbols -/

/-- The byte of a symbol. -/
def letter (n : Nat) : UInt8 := UInt8.ofNat (symbol n).toNat

theorem encode_symbol (h : n < 64) : String.utf8EncodeChar (symbol n) = [letter n] := by
  have hall : ∀ m : Fin 64, String.utf8EncodeChar (symbol m) = [letter m] := by decide +kernel
  exact hall ⟨n, h⟩

theorem value?_letter (h : n < 64) : value? (letter n) = some n := by
  have hall : ∀ m : Fin 64, value? (letter m) = some m.val := by decide +kernel
  exact hall ⟨n, h⟩

theorem value?_eq_some : value? b = some n ↔ n < 64 ∧ b = letter n := by
  constructor
  · intro h
    have hall : ∀ b : Fin 256, ∀ m ∈ value? (UInt8.ofFin b), m < 64 ∧ UInt8.ofFin b = letter m := by
      decide +kernel
    exact hall b.toFin n h
  · intro h
    rw [h.2, value?_letter h.1]

theorem letter_ne_pad (h : n < 64) : letter n ≠ pad := by
  intro heq
  have hnone : value? pad = none := by decide
  simp [← heq, value?_letter h] at hnone

theorem valueAt_eq_ok : valueAt offset b = .ok n ↔ n < 64 ∧ b = letter n := by
  rw [← value?_eq_some, valueAt]
  cases value? b <;> simp

/-! ### The same bits -/

theorem values_lt (a b c : UInt8) :
    let m := (a.toNat * 256 + b.toNat) * 256 + c.toNat
    m / 262144 < 64 ∧ m / 4096 % 64 < 64 ∧ m / 64 % 64 < 64 ∧ m % 64 < 64 := by
  intro m
  have ha := a.toNat_lt
  have hb := b.toNat_lt
  have hc := c.toNat_lt
  omega

theorem values_lt_two (a b : UInt8) :
    let m := (a.toNat * 256 + b.toNat) * 4
    m / 4096 < 64 ∧ m / 64 % 64 < 64 ∧ m % 64 < 64 := by
  intro m
  have ha := a.toNat_lt
  have hb := b.toNat_lt
  omega

theorem values_lt_one (a : UInt8) : let m := a.toNat * 16; m / 64 < 64 ∧ m % 64 < 64 := by
  intro m
  have ha := a.toNat_lt
  omega

/-- Three bytes from four values, and four values from three bytes. -/
theorem same_bits {na nb nc nd : Nat} (ha : na < 64) (hb : nb < 64) (hc : nc < 64) (hd : nd < 64) :
    let n := ((na * 64 + nb) * 64 + nc) * 64 + nd
    let m := (a.toNat * 256 + b.toNat) * 256 + c.toNat
    (a = UInt8.ofNat (n / 65536) ∧ b = UInt8.ofNat (n / 256 % 256) ∧ c = UInt8.ofNat (n % 256)) ↔
      na = m / 262144 ∧ nb = m / 4096 % 64 ∧ nc = m / 64 % 64 ∧ nd = m % 64 := by
  intro n m
  have hab := a.toNat_lt
  have hbb := b.toNat_lt
  have hcb := c.toNat_lt
  simp only [← UInt8.toNat_inj, UInt8.toNat_ofNat']
  omega

theorem same_bits_two {na nb nc : Nat} (ha : na < 64) (hb : nb < 64) (hc : nc < 64) :
    let n := (na * 64 + nb) * 64 + nc
    let m := (a.toNat * 256 + b.toNat) * 4
    (n % 4 = 0 ∧ a = UInt8.ofNat (n / 1024) ∧ b = UInt8.ofNat (n / 4 % 256)) ↔
      na = m / 4096 ∧ nb = m / 64 % 64 ∧ nc = m % 64 := by
  intro n m
  have hab := a.toNat_lt
  have hbb := b.toNat_lt
  simp only [← UInt8.toNat_inj, UInt8.toNat_ofNat']
  omega

theorem same_bits_one {na nb : Nat} (ha : na < 64) (hb : nb < 64) :
    let n := na * 64 + nb
    let m := a.toNat * 16
    (n % 16 = 0 ∧ a = UInt8.ofNat (n / 16)) ↔ na = m / 64 ∧ nb = m % 64 := by
  intro n m
  have hab := a.toNat_lt
  simp only [← UInt8.toNat_inj, UInt8.toNat_ofNat']
  omega

/-! ### What is written -/

/-- What bytes are written as, in bytes. -/
def written (bytes : List UInt8) : List UInt8 := Utf8.encode (write bytes)

theorem encode_pads : Utf8.encode (List.replicate n '=') = List.replicate n pad := by
  induction n with
  | zero => rfl
  | succ n ih =>
    rw [List.replicate_succ, List.replicate_succ, ← ih]
    rfl

/-- Four symbols for three bytes. -/
theorem written_cons (a b c : UInt8) (rest : List UInt8) :
    let n := (a.toNat * 256 + b.toNat) * 256 + c.toNat
    written (a :: b :: c :: rest) =
      letter (n / 262144) :: letter (n / 4096 % 64) :: letter (n / 64 % 64) :: letter (n % 64) ::
        written rest := by
  intro n
  obtain ⟨hx, hy, hz, hw⟩ : n / 262144 < 64 ∧ n / 4096 % 64 < 64 ∧ n / 64 % 64 < 64 ∧ n % 64 < 64 :=
    values_lt a b c
  show Utf8.encode (symbol (n / 262144) :: symbol (n / 4096 % 64) :: symbol (n / 64 % 64) ::
    symbol (n % 64) :: write rest) = _
  simp only [Utf8.encode, List.flatMap_cons, encode_symbol hx, encode_symbol hy, encode_symbol hz,
    encode_symbol hw, List.singleton_append]
  rfl

theorem written_two (a b : UInt8) :
    let n := (a.toNat * 256 + b.toNat) * 4
    written [a, b] = [letter (n / 4096), letter (n / 64 % 64), letter (n % 64), pad] := by
  intro n
  obtain ⟨hx, hy, hz⟩ : n / 4096 < 64 ∧ n / 64 % 64 < 64 ∧ n % 64 < 64 := values_lt_two a b
  show Utf8.encode [symbol (n / 4096), symbol (n / 64 % 64), symbol (n % 64), '='] = _
  simp only [Utf8.encode, List.flatMap_cons, encode_symbol hx, encode_symbol hy, encode_symbol hz,
    List.singleton_append]
  rfl

theorem written_one (a : UInt8) :
    let n := a.toNat * 16
    written [a] = [letter (n / 64), letter (n % 64), pad, pad] := by
  intro n
  obtain ⟨hx, hy⟩ : n / 64 < 64 ∧ n % 64 < 64 := values_lt_one a
  show Utf8.encode [symbol (n / 64), symbol (n % 64), '=', '='] = _
  simp only [Utf8.encode, List.flatMap_cons, encode_symbol hx, encode_symbol hy,
    List.singleton_append]
  rfl

/-- What is written begins with a symbol, unless it is nothing. -/
theorem written_head (h : bytes ≠ []) : ∃ n rest, n < 64 ∧ written bytes = letter n :: rest := by
  match bytes with
  | [a] => exact ⟨_, _, (values_lt_one a).1, written_one a⟩
  | [a, b] => exact ⟨_, _, (values_lt_two a b).1, written_two a b⟩
  | a :: b :: c :: rest => exact ⟨_, _, (values_lt a b c).1, written_cons a b c rest⟩

theorem written_eq_pads (h : written bytes = List.replicate n pad) : bytes = [] := by
  by_cases hnil : bytes = []
  · exact hnil
  · obtain ⟨m, rest, hm, hhead⟩ := written_head hnil
    have hmem : letter m ∈ List.replicate n pad := by simp [← h, hhead]
    exact absurd (List.eq_of_mem_replicate hmem) (letter_ne_pad hm)

/-- Padding that is left out leaves the symbols and the rest of the padding. -/
theorem eq_symbols_pads {α : Type} {mark : α} {symbols text : List α}
    (hsymbols : ∀ x ∈ symbols, x ≠ mark)
    (h : symbols ++ List.replicate m mark = text ++ List.replicate n mark) :
    ∃ k, k + n = m ∧ text = symbols ++ List.replicate k mark := by
  rcases List.append_eq_append_iff.mp h with ⟨kept, htext, hpads⟩ | ⟨lost, hlost, hpads⟩
  · obtain ⟨hlength, hkept, -⟩ := List.append_eq_replicate_iff.mp hpads.symm
    exact ⟨kept.length, by simpa using hlength, by rw [htext, ← hkept]⟩
  · have hnil : lost = [] := by
      refine List.eq_nil_iff_forall_not_mem.mpr fun x hx => hsymbols x (by simp [hlost, hx]) ?_
      have hmem : x ∈ List.replicate n mark := by simp [hpads, hx]
      exact List.eq_of_mem_replicate hmem
    rw [hnil] at hlost hpads
    have hmn : n = m := by simpa using congrArg List.length hpads
    exact ⟨0, by omega, by simpa using hlost.symm⟩

/-! ### The last quadruple -/

/-- Symbols with their values. -/
def letters (values : List Nat) : List (UInt8 × Nat) := values.map fun n => (letter n, n)

theorem lastSymbols_eq_ok_iff {i : Nat} {list : List (UInt8 × Nat)} :
    lastSymbols offset i input = .ok list ↔
      ∃ values k, list = letters values ∧ (∀ n ∈ values, n < 64) ∧
        input = values.map letter ++ List.replicate k pad ∧ (k = 0 ∨ 2 ≤ i + values.length) := by
  induction input generalizing i list with
  | nil =>
    rw [lastSymbols]
    constructor
    · intro h
      exact ⟨[], 0, (Except.ok.inj h).symm, by simp, rfl, Or.inl rfl⟩
    · intro h
      obtain ⟨values, k, rfl, -, hinput, -⟩ := h
      have hvalues : values = [] := by simpa using (List.append_eq_nil_iff.mp hinput.symm).1
      rw [hvalues]
      rfl
  | cons b rest ih =>
    rw [lastSymbols]
    split
    · next hpad =>
      constructor
      · intro h
        split at h
        · simp at h
        · next hplace =>
          obtain ⟨hi, hrest⟩ := Bool.or_eq_false_iff.mp (Bool.eq_false_iff.mpr hplace)
          have hpads : ∀ x ∈ rest, x = pad := by simpa using hrest
          refine ⟨[], rest.length + 1, (Except.ok.inj h).symm, by simp, ?_, Or.inr ?_⟩
          · rw [hpad, List.replicate_succ, ← List.eq_replicate_of_mem hpads]
            rfl
          · exact Nat.not_lt.mp (of_decide_eq_false hi)
      · intro h
        obtain ⟨values, k, rfl, hvalues, hinput, hk⟩ := h
        cases values with
        | cons v vs =>
          have hhead : b = letter v := (List.cons.inj hinput).1
          exact absurd (hhead.symm.trans hpad) (letter_ne_pad (hvalues v (by simp)))
        | nil =>
          cases k with
          | zero => simp at hinput
          | succ k =>
            have hrest : rest = List.replicate k pad := (List.cons.inj hinput).2
            have hi : ¬ i < 2 := by
              rw [List.length_nil] at hk
              omega
            simp [hrest, hi, letters]
    · next hpad =>
      simp only [Result.bind_eq_ok, valueAt_eq_ok, ih, Except.ok.injEq]
      constructor
      · intro h
        obtain ⟨n, ⟨hn, rfl⟩, more, ⟨values, k, rfl, hvalues, hrest, hk⟩, rfl⟩ := h
        refine ⟨n :: values, k, rfl, by simpa using ⟨hn, hvalues⟩, by rw [hrest]; rfl, ?_⟩
        rw [List.length_cons]
        omega
      · intro h
        obtain ⟨values, k, rfl, hvalues, hinput, hk⟩ := h
        cases values with
        | nil =>
          cases k with
          | zero => simp at hinput
          | succ k => exact absurd (List.cons.inj hinput).1 hpad
        | cons v vs =>
          obtain ⟨hhead, hrest⟩ := List.cons.inj hinput
          refine ⟨v, ⟨hvalues v (by simp), hhead⟩, letters vs,
            ⟨vs, k, rfl, fun n hn => hvalues n (by simp [hn]), hrest, ?_⟩, by rw [hhead]; rfl⟩
          rw [List.length_cons] at hk
          omega

/-- Padding that is short of what belongs there is filled up. -/
theorem pads_filled {symbols : List UInt8} {k : Nat} (h : symbols.length + k ≤ 4) :
    symbols ++ List.replicate (4 - symbols.length) pad =
      (symbols ++ List.replicate k pad) ++ List.replicate (4 - symbols.length - k) pad := by
  rw [List.append_assoc, List.replicate_append_replicate]
  congr 2
  omega

/-- What is read of at most four bytes is written as them, but for padding. -/
theorem written_of_readLast (hshort : input.length ≤ 4) (h : readLast offset input = .ok bytes) :
    ∃ n, written bytes = input ++ List.replicate n pad := by
  rw [readLast, Result.bind_eq_ok] at h
  obtain ⟨list, hlist, h⟩ := h
  obtain ⟨values, k, rfl, hvalues, rfl, hk⟩ := lastSymbols_eq_ok_iff.mp hlist
  rw [List.length_append, List.length_replicate] at hshort
  match values with
  | [] =>
    have hnone : k = 0 := by simpa using hk
    subst hnone
    exact ⟨0, by rw [← Except.ok.inj h]; rfl⟩
  | [_] => cases h
  | [na, nb] =>
    have ha : na < 64 := hvalues na (by simp)
    have hb : nb < 64 := hvalues nb (by simp)
    simp only [letters, List.map_cons, List.map_nil] at h
    split at h
    · next hzero =>
      obtain ⟨hna, hnb⟩ := (same_bits_one ha hb).mp ⟨hzero, rfl⟩
      refine ⟨_, Eq.trans ?_ (pads_filled hshort)⟩
      rw [← Except.ok.inj h, written_one, ← hna, ← hnb]
      rfl
    · cases h
  | [na, nb, nc] =>
    have ha : na < 64 := hvalues na (by simp)
    have hb : nb < 64 := hvalues nb (by simp)
    have hc : nc < 64 := hvalues nc (by simp)
    simp only [letters, List.map_cons, List.map_nil] at h
    split at h
    · next hzero =>
      obtain ⟨hna, hnb, hnc⟩ := (same_bits_two ha hb hc).mp ⟨hzero, rfl, rfl⟩
      refine ⟨_, Eq.trans ?_ (pads_filled hshort)⟩
      rw [← Except.ok.inj h, written_two, ← hna, ← hnb, ← hnc]
      rfl
    · cases h
  | [na, nb, nc, nd] =>
    have ha : na < 64 := hvalues na (by simp)
    have hb : nb < 64 := hvalues nb (by simp)
    have hc : nc < 64 := hvalues nc (by simp)
    have hd : nd < 64 := hvalues nd (by simp)
    obtain ⟨hna, hnb, hnc, hnd⟩ := (same_bits ha hb hc hd).mp ⟨rfl, rfl, rfl⟩
    refine ⟨_, Eq.trans ?_ (pads_filled hshort)⟩
    rw [← Except.ok.inj h, written_cons, ← hna, ← hnb, ← hnc, ← hnd]
    rfl
  | _ :: _ :: _ :: _ :: _ :: _ =>
    simp only [List.map_cons, List.length_cons] at hshort
    omega

/-- What is written ends with its padding, and some of that may be left out. -/
theorem lastSymbols_of_written {values : List Nat} (hvalues : ∀ n ∈ values, n < 64)
    (htwo : 2 ≤ values.length) (hwritten : written bytes = values.map letter ++ List.replicate m pad)
    (h : written bytes = input ++ List.replicate n pad) :
    lastSymbols offset 0 input = .ok (letters values) := by
  have hsymbols : ∀ b ∈ values.map letter, b ≠ pad := by
    intro b hb
    obtain ⟨n, hn, rfl⟩ := List.mem_map.mp hb
    exact letter_ne_pad (hvalues n hn)
  obtain ⟨k, -, hinput⟩ := eq_symbols_pads hsymbols (hwritten.symm.trans h)
  exact lastSymbols_eq_ok_iff.mpr ⟨values, k, rfl, hvalues, hinput, Or.inr (by omega)⟩

/-- What is read as at most four bytes is at most three. -/
theorem rest_eq_nil (hshort : input.length ≤ 4)
    (h : written (a :: b :: c :: bytes) = input ++ List.replicate n pad) : bytes = [] := by
  have hsplit : [_, _, _, _] ++ written bytes = input ++ List.replicate n pad :=
    (written_cons a b c bytes).symm.trans h
  rcases List.append_eq_append_iff.mp hsplit with ⟨kept, hinput, hrest⟩ | ⟨lost, -, hrest⟩
  · have hkept : kept = [] := by
      have hlength := congrArg List.length hinput
      simp only [List.length_append, List.length_cons, List.length_nil] at hlength
      exact List.eq_nil_of_length_eq_zero (by omega)
    rw [hkept] at hrest
    exact written_eq_pads hrest
  · obtain ⟨-, -, hpads⟩ := List.append_eq_replicate_iff.mp hrest.symm
    exact written_eq_pads hpads

/-- Whatever of its padding is left out, what is written as at most four bytes is read. -/
theorem readLast_of_written (hshort : input.length ≤ 4)
    (h : written bytes = input ++ List.replicate n pad) : readLast offset input = .ok bytes := by
  rw [readLast, Result.bind_eq_ok]
  match bytes with
  | [] =>
    have hinput : input = [] := (List.append_eq_nil_iff.mp h.symm).1
    rw [hinput]
    exact ⟨[], rfl, rfl⟩
  | [a] =>
    obtain ⟨hx, hy⟩ := values_lt_one a
    obtain ⟨hzero, hbyte⟩ := (same_bits_one hx hy).mpr ⟨rfl, rfl⟩
    refine ⟨letters [_, _], lastSymbols_of_written (m := 2) (by simpa using ⟨hx, hy⟩) (by simp)
      (written_one a) h, ?_⟩
    show (if _ then _ else _) = _
    rw [if_pos hzero, ← hbyte]
  | [a, b] =>
    obtain ⟨hx, hy, hz⟩ := values_lt_two a b
    obtain ⟨hzero, hfirst, hsecond⟩ := (same_bits_two hx hy hz).mpr ⟨rfl, rfl, rfl⟩
    refine ⟨letters [_, _, _], lastSymbols_of_written (m := 1) (by simpa using ⟨hx, hy, hz⟩)
      (by simp) (written_two a b) h, ?_⟩
    show (if _ then _ else _) = _
    rw [if_pos hzero, ← hfirst, ← hsecond]
  | a :: b :: c :: rest =>
    have hrest : rest = [] := rest_eq_nil hshort h
    subst hrest
    obtain ⟨hx, hy, hz, hw⟩ := values_lt a b c
    obtain ⟨hfirst, hsecond, hthird⟩ := (same_bits hx hy hz hw).mpr ⟨rfl, rfl, rfl, rfl⟩
    refine ⟨letters [_, _, _, _], lastSymbols_of_written (m := 0)
      (by simpa using ⟨hx, hy, hz, hw⟩) (by simp) (written_cons a b c []) h, ?_⟩
    show Except.ok [_, _, _] = _
    rw [← hfirst, ← hsecond, ← hthird]

/-! ### Whole texts -/

/-- What can be read is what the bytes are written as, with any of its padding left out. -/
theorem readFrom_eq_ok_iff :
    readFrom offset input = .ok bytes ↔ ∃ n, written bytes = input ++ List.replicate n pad := by
  fun_induction readFrom offset input generalizing bytes with
  | case1 offset a b c d e rest ih =>
    simp only [Result.bind_eq_ok, valueAt_eq_ok, Except.ok.injEq]
    constructor
    · intro h
      obtain ⟨na, ⟨ha, rfl⟩, nb, ⟨hb, rfl⟩, nc, ⟨hc, rfl⟩, nd, ⟨hd, rfl⟩, more, hmore, rfl⟩ := h
      obtain ⟨n, hn⟩ := ih.mp hmore
      obtain ⟨hna, hnb, hnc, hnd⟩ := (same_bits ha hb hc hd).mp ⟨rfl, rfl, rfl⟩
      refine ⟨n, ?_⟩
      rw [written_cons, hn, ← hna, ← hnb, ← hnc, ← hnd]
      rfl
    · intro h
      obtain ⟨n, h⟩ := h
      match bytes with
      | [] => cases h
      | [x] => simp [written_one] at h
      | [x, y] => simp [written_two] at h
      | x :: y :: z :: more =>
        obtain ⟨hx, hy, hz, hw⟩ := values_lt x y z
        obtain ⟨hfirst, hsecond, hthird⟩ := (same_bits hx hy hz hw).mpr ⟨rfl, rfl, rfl, rfl⟩
        rw [written_cons] at h
        obtain ⟨ha, h⟩ := List.cons.inj h
        obtain ⟨hb, h⟩ := List.cons.inj h
        obtain ⟨hc, h⟩ := List.cons.inj h
        obtain ⟨hd, h⟩ := List.cons.inj h
        refine ⟨_, ⟨hx, ha.symm⟩, _, ⟨hy, hb.symm⟩, _, ⟨hz, hc.symm⟩, _, ⟨hw, hd.symm⟩, more,
          ih.mpr ⟨n, h⟩, ?_⟩
        rw [← hfirst, ← hsecond, ← hthird]
  | case2 offset last hlast =>
    have hshort : last.length ≤ 4 := by
      match last with
      | [] | [_] | [_, _] | [_, _, _] | [_, _, _, _] => simp
      | _ :: _ :: _ :: _ :: _ :: _ => exact absurd rfl (hlast _ _ _ _ _ _)
    exact ⟨written_of_readLast hshort, fun ⟨_, h⟩ => readLast_of_written hshort h⟩

/-- Symbols and padding are all that is written. -/
theorem mem_write {ch : Char} (h : ch ∈ write bytes) : ch = '=' ∨ ∃ n < 64, ch = symbol n := by
  induction bytes using write.induct with
  | case1 x y z rest ih =>
    obtain ⟨hx, hy, hz, hw⟩ := values_lt x y z
    simp only [write, List.mem_cons] at h
    rcases h with h | h | h | h | h
    · exact Or.inr ⟨_, hx, h⟩
    · exact Or.inr ⟨_, hy, h⟩
    · exact Or.inr ⟨_, hz, h⟩
    · exact Or.inr ⟨_, hw, h⟩
    · exact ih h
  | case2 x y =>
    obtain ⟨hx, hy, hz⟩ := values_lt_two x y
    simp only [write, List.mem_cons, List.not_mem_nil, or_false] at h
    rcases h with h | h | h | h
    · exact Or.inr ⟨_, hx, h⟩
    · exact Or.inr ⟨_, hy, h⟩
    · exact Or.inr ⟨_, hz, h⟩
    · exact Or.inl h
  | case3 x =>
    obtain ⟨hx, hy⟩ := values_lt_one x
    simp only [write, List.mem_cons, List.not_mem_nil, or_false, or_self] at h
    rcases h with h | h | h
    · exact Or.inr ⟨_, hx, h⟩
    · exact Or.inr ⟨_, hy, h⟩
    · exact Or.inl h
  | case4 => simp [write] at h

theorem mem_written (h : b ∈ written bytes) : b = pad ∨ (value? b).isSome = true := by
  obtain ⟨ch, hch, hb⟩ := List.mem_flatMap.mp h
  rcases mem_write hch with rfl | ⟨n, hn, rfl⟩
  · exact Or.inl (List.mem_singleton.mp hb)
  · rw [encode_symbol hn] at hb
    rw [List.mem_singleton.mp hb, value?_letter hn]
    exact Or.inr rfl

theorem symbol_not_blank (h : n < 64) : Text.isBlank (symbol n) = false := by
  have hall : ∀ m : Fin 64, Text.isBlank (symbol m) = false := by decide +kernel
  exact hall ⟨n, h⟩

/-- No blank is written. -/
theorem not_blank_of_mem_write {ch : Char} (h : ch ∈ write bytes) : Text.isBlank ch = false := by
  rcases mem_write h with rfl | ⟨n, hn, rfl⟩
  · decide
  · exact symbol_not_blank hn

/-- A text can be read as bytes exactly if it is what these bytes are written as, with any of the
padding left out. -/
theorem decode_eq_ok_iff {text : String} :
    decode text = .ok bytes ↔ ∃ n, write bytes = text.toList ++ List.replicate n '=' := by
  have hwritten : (∃ n, written bytes = Utf8.encode text.toList ++ List.replicate n pad) ↔
      ∃ n, write bytes = text.toList ++ List.replicate n '=' := by
    refine exists_congr fun n => ?_
    rw [← encode_pads, ← Utf8.encode_append]
    exact ⟨Utf8.encode_inj, fun h => congrArg Utf8.encode h⟩
  have hread : readFrom 0 (Utf8.encode text.toList) = .ok bytes ↔ _ := readFrom_eq_ok_iff
  rw [← hwritten, ← hread, decode]
  cases hlast : (Utf8.encode text.toList).getLast? with
  | none =>
    rw [List.getLast?_eq_none_iff.mp hlast]
    rfl
  | some b =>
    simp only
    split
    · next hstray =>
      -- the byte that is reported can be in nothing that is read
      refine iff_of_false (by simp) fun h => ?_
      obtain ⟨n, h⟩ := hread.mp h
      have hmem : b ∈ written bytes := by
        rw [h]
        exact List.mem_append_left _ (List.mem_of_getLast? hlast)
      rcases mem_written hmem with hpad | hvalue
      · exact hstray.2.1 hpad
      · rw [Option.isNone_iff_eq_none.mp hstray.2.2] at hvalue
        cases hvalue
    · rfl

/-- What bytes are written as is read as these bytes. -/
theorem decode_encode : decode (encode bytes) = .ok bytes := by
  rw [decode_eq_ok_iff, encode, String.toList_ofList]
  exact ⟨0, (List.append_nil _).symm⟩

theorem trim_encode : Text.trim (encode bytes) = encode bytes := by
  refine Text.trim_of_no_blank fun ch hch => ?_
  rw [encode, String.toList_ofList] at hch
  exact not_blank_of_mem_write hch

end ModelGateway.Base64

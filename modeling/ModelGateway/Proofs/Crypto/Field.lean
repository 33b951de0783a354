/-
The field has no zero divisors.

An element is the list of a polynomial's coefficients, and a product is taken modulo a
polynomial of degree 128.  `value` puts a point of any ring of characteristic 2 into that
polynomial's place, and as long as the modulus vanishes there, products go to products.  So
the elements sit inside the ring that the modulus defines, and that ring is a field if the
modulus has no factors.

A factor of degree `d`, at most 64, would have a root in a field of `2ᵈ` elements.  There `d`
squarings change nothing, and 128 squarings lead back to the root, as computing with elements
shows; so 64 squarings, a multiple of every common divisor, lead back to it too.  But the
difference that 64 squarings make has an inverse, so it is not zero.  What is computed are two
runs of 64 squarings and one product.
-/
import Mathlib.Algebra.CharP.Two
import Mathlib.Dynamics.PeriodicPts.Defs
import Mathlib.FieldTheory.Finite.Basic
import Mathlib.RingTheory.AdjoinRoot
import ModelGateway.Crypto.Gcm

namespace ModelGateway.Gcm

open Polynomial

/-- The element that is a power of `x`. -/
def power (i : Nat) : Element := 1#128 <<< (127 - i)

/-- An element squared so often. -/
def squared : Nat → Element → Element
  | 0, a => a
  | n + 1, a => product (squared n a) (squared n a)

/-! ### The value of an element at a point -/

section Value

variable {K : Type} [CommRing K] {x : K}

/-- The value of an element's polynomial at a point; the most significant bit is the constant. -/
def value (x : K) (a : Element) : K := ∑ i ∈ Finset.range 128, if a.getMsbD i then x ^ i else 0

theorem value_power (x : K) (i : Nat) (hi : i < 128) : value x (power i) = x ^ i := by
  have hbit : ∀ j ∈ Finset.range 128, (power i).getMsbD j = decide (j = i) := by
    intro j hj
    rw [Finset.mem_range] at hj
    rw [power, BitVec.getMsbD_eq_getLsbD, BitVec.getLsbD_shiftLeft, BitVec.getLsbD_one]
    grind
  unfold value
  rw [Finset.sum_congr rfl fun j hj => by rw [hbit j hj]]
  simp [hi]

/-- Shifting multiplies by `x` and loses the highest coefficient. -/
theorem value_shift (x : K) (v : Element) :
    value x (v >>> 1) + (if v.getLsbD 0 then x ^ 128 else 0) = x * value x v := by
  have hlast : v.getMsbD 127 = v.getLsbD 0 := by simp [BitVec.getMsbD_eq_getLsbD]
  have hbit : ∀ i ∈ Finset.range 127, (v >>> 1).getMsbD (i + 1) = v.getMsbD i := by
    intro i hi
    rw [Finset.mem_range] at hi
    rw [BitVec.getMsbD_ushiftRight]
    grind
  have hfirst : (v >>> 1).getMsbD 0 = false := by simp [BitVec.getMsbD_ushiftRight]
  have hshifted : value x (v >>> 1) =
      ∑ i ∈ Finset.range 127, if v.getMsbD i then x ^ (i + 1) else 0 := by
    rw [value, Finset.sum_range_succ', Finset.sum_congr rfl fun i hi => by rw [hbit i hi], hfirst]
    simp
  rw [hshifted, value, Finset.mul_sum, Finset.sum_range_succ (n := 127), hlast]
  simp [pow_succ', mul_ite]

variable [CharP K 2]

theorem value_xor (x : K) (a b : Element) : value x (a ^^^ b) = value x a + value x b := by
  unfold value
  rw [← Finset.sum_add_distrib]
  refine Finset.sum_congr rfl fun i _ => ?_
  rw [BitVec.getMsbD_xor]
  cases a.getMsbD i <;> cases b.getMsbD i <;> simp [CharTwo.add_self_eq_zero]

theorem value_timesX (hx : x ^ 128 = x ^ 7 + x ^ 2 + x + 1) (v : Element) :
    value x (timesX v) = x * value x v := by
  have hreduced : (0xE1#128 <<< 120 : Element) = power 7 ^^^ power 2 ^^^ power 1 ^^^ power 0 := by
    decide
  have hvalue : value x (0xE1#128 <<< 120) = x ^ 128 := by
    rw [hreduced, value_xor, value_xor, value_xor, value_power x 7 (by decide),
      value_power x 2 (by decide), value_power x 1 (by decide), value_power x 0 (by decide), hx,
      pow_one, pow_zero]
  rw [← value_shift, timesX]
  split
  · rw [value_xor, hvalue]
  · rw [add_zero]

theorem value_accumulate (hx : x ^ 128 = x ^ 7 + x ^ 2 + x + 1) (a z v : Element) (n : Nat) :
    value x (accumulate a n z v) = value x z +
      (∑ i ∈ Finset.range n, if a.getLsbD (n - 1 - i) then x ^ i else 0) * value x v := by
  induction n generalizing z v with
  | zero => simp [accumulate]
  | succ n ih =>
    have hfirst : value x (if a.getLsbD n then z ^^^ v else z) =
        value x z + (if a.getLsbD n then 1 else 0) * value x v := by
      split
      · rw [value_xor, one_mul]
      · rw [zero_mul, add_zero]
    have hshift : ∀ i ∈ Finset.range n,
        (if a.getLsbD (n + 1 - 1 - (i + 1)) then x ^ (i + 1) else 0) =
          (if a.getLsbD (n - 1 - i) then x ^ i else 0) * x := by
      intro i hi
      have hplace : n + 1 - 1 - (i + 1) = n - 1 - i := by omega
      rw [hplace, ite_mul, zero_mul, pow_succ]
    rw [accumulate, ih, hfirst, value_timesX hx, Finset.sum_range_succ',
      Finset.sum_congr rfl hshift, ← Finset.sum_mul]
    simp only [Nat.add_sub_cancel, Nat.sub_zero, pow_zero]
    ring

/-- The value of a product is the product of the values, where the field's polynomial vanishes. -/
theorem value_product (hx : x ^ 128 = x ^ 7 + x ^ 2 + x + 1) (a b : Element) :
    value x (product a b) = value x a * value x b := by
  have hzero : value x 0#128 = 0 := by simp [value]
  have hbits : ∀ i ∈ Finset.range 128, (if a.getLsbD (128 - 1 - i) then x ^ i else 0) =
      if a.getMsbD i then x ^ i else 0 := by
    intro i hi
    rw [Finset.mem_range] at hi
    rw [BitVec.getMsbD_eq_getLsbD, decide_eq_true hi, Bool.true_and]
  rw [product, value_accumulate hx, hzero, zero_add, Finset.sum_congr rfl hbits]
  rfl

theorem value_squared (hx : x ^ 128 = x ^ 7 + x ^ 2 + x + 1) (n : Nat) (a : Element) :
    value x (squared n a) = value x a ^ 2 ^ n := by
  induction n with
  | zero => simp [squared]
  | succ n ih => rw [squared, value_product hx, ih, ← pow_two, ← pow_mul, pow_succ]

end Value

/-! ### The field's polynomial cannot be factored -/

/-- The polynomial that products are taken modulo. -/
noncomputable def modulus : (ZMod 2)[X] := X ^ 128 + X ^ 7 + X ^ 2 + X + 1

theorem natDegree_modulus : modulus.natDegree = 128 := by
  unfold modulus
  compute_degree!

theorem monic_modulus : modulus.Monic := by
  unfold modulus
  monicity!

/-- What squaring `x` 64 times gives. -/
def halfway : Element := 0x6f9945a9e519a7229d4c1ad657f8a686

theorem squared_power : squared 64 (power 1) = halfway := by decide +kernel

/-- Squaring 128 times leads back to `x`. -/
theorem squared_halfway : squared 64 halfway = power 1 := by decide +kernel

/-- Squaring 64 times leads away from `x`: the difference has an inverse. -/
theorem product_halfway :
    product 0x180da934bf53158251c13dbb149f5279 (halfway ^^^ power 1) = power 0 := by
  decide +kernel

/-- In a field of fewer than `2¹²⁸` elements of characteristic 2, nothing solves the field's
polynomial. -/
theorem no_root_of_small {K : Type} [Field K] [Fintype K] [CharP K 2] {d : Nat}
    (hcard : Fintype.card K = 2 ^ d) (hpos : 0 < d) (hsmall : d < 128) (x : K) :
    x ^ 128 ≠ x ^ 7 + x ^ 2 + x + 1 := by
  intro hx
  let frobenius : K → K := fun y => y ^ 2
  have hiterate : ∀ n y, frobenius^[n] y = y ^ 2 ^ n := by
    intro n y
    induction n with
    | zero => simp
    | succ n ih =>
      rw [Function.iterate_succ_apply', ih, pow_succ, pow_mul]
  have hfield : Function.IsPeriodicPt frobenius d x := by
    show frobenius^[d] x = x
    rw [hiterate, ← hcard, FiniteField.pow_card]
  have hforth : frobenius^[64] x = value x halfway := by
    rw [hiterate, ← squared_power, value_squared hx, value_power x 1 (by decide), pow_one]
  have hback : frobenius^[64] (value x halfway) = x := by
    rw [hiterate, ← value_squared hx, squared_halfway, value_power x 1 (by decide), pow_one]
  have hwhole : Function.IsPeriodicPt frobenius (64 + 64) x := by
    show frobenius^[64 + 64] x = x
    rw [Function.iterate_add_apply, hforth, hback]
  have hgcd : d.gcd 128 ∣ 64 := by
    obtain ⟨k, -, hk⟩ := (Nat.dvd_prime_pow Nat.prime_two (m := 7)).mp (Nat.gcd_dvd_right d 128)
    have hle : 2 ^ k < 2 ^ 7 := hk ▸ (Nat.gcd_le_left 128 hpos).trans_lt hsmall
    rw [hk]
    exact pow_dvd_pow 2 (Nat.le_of_lt_succ (Nat.pow_lt_pow_iff_right (by decide) |>.mp hle) : k ≤ 6)
  have hhalf : frobenius^[64] x = x := (hfield.gcd hwhole).trans_dvd hgcd
  have hvalue := congrArg (value x) product_halfway
  rw [value_product hx, value_xor, ← hforth, hhalf, value_power x 1 (by decide),
    value_power x 0 (by decide), pow_one, pow_zero, CharTwo.add_self_eq_zero, mul_zero] at hvalue
  exact zero_ne_one hvalue

theorem root_eq {K : Type} [CommRing K] [Algebra (ZMod 2) K] [CharP K 2] {x : K}
    (h : aeval x modulus = 0) : x ^ 128 = x ^ 7 + x ^ 2 + x + 1 := by
  unfold modulus at h
  simp only [map_add, map_pow, aeval_X, map_one] at h
  rw [← CharTwo.add_eq_zero]
  linear_combination h

theorem irreducible_modulus : Irreducible modulus := by
  have hne : modulus ≠ 1 := by
    intro h
    have hdegree := natDegree_modulus
    rw [h, natDegree_one] at hdegree
    cases hdegree
  refine (monic_modulus.irreducible_iff_lt_natDegree_lt hne).mpr fun q hq hdegree hdvd => ?_
  obtain ⟨hlow, hhigh⟩ := Finset.mem_Ioc.mp hdegree
  obtain ⟨g, hg, hgq⟩ := WfDvdMonoid.exists_irreducible_factor
    (fun hunit => hlow.ne' (natDegree_eq_zero_of_isUnit hunit)) hq.ne_zero
  have hle : g.natDegree ≤ q.natDegree := natDegree_le_of_dvd hgq hq.ne_zero
  have : Fact (Irreducible g) := ⟨hg⟩
  let basis := AdjoinRoot.powerBasis hg.ne_zero
  have : Module.Finite (ZMod 2) (AdjoinRoot g) := basis.finite
  have : Finite (AdjoinRoot g) := Module.finite_of_finite (ZMod 2)
  let : Fintype (AdjoinRoot g) := Fintype.ofFinite _
  have : CharP (AdjoinRoot g) 2 := charP_of_injective_algebraMap' (ZMod 2) 2
  have hcard : Fintype.card (AdjoinRoot g) = 2 ^ g.natDegree := by
    rw [Module.card_eq_pow_finrank (K := ZMod 2), ZMod.card, basis.finrank,
      AdjoinRoot.powerBasis_dim]
  have hroot : aeval (AdjoinRoot.root g) modulus = 0 := by
    rw [AdjoinRoot.aeval_eq, AdjoinRoot.mk_eq_zero]
    exact hgq.trans hdvd
  have hmodulus := natDegree_modulus
  exact no_root_of_small hcard hg.natDegree_pos (by omega) _ (root_eq hroot)

/-! ### Products -/

/-- The point at which products of elements are products in a field. -/
noncomputable abbrev root : AdjoinRoot modulus := AdjoinRoot.root modulus

/-- An element of value zero is zero: its polynomial has a smaller degree than the modulus. -/
theorem eq_zero_of_value {a : Element} (h : value root a = 0) : a = 0#128 := by
  let p : (ZMod 2)[X] := ∑ i ∈ Finset.range 128, if a.getMsbD i then X ^ i else 0
  have hvalue : value root a = AdjoinRoot.mk modulus p := by
    rw [value, map_sum]
    refine Finset.sum_congr rfl fun i _ => ?_
    rw [apply_ite (AdjoinRoot.mk modulus), map_pow, AdjoinRoot.mk_X, map_zero]
  have hdegree : p.degree < modulus.degree := by
    rw [degree_eq_natDegree monic_modulus.ne_zero, natDegree_modulus]
    refine (degree_sum_le _ _).trans_lt ((Finset.sup_lt_iff (WithBot.bot_lt_coe 128)).mpr ?_)
    intro i hi
    split
    · exact (degree_X_pow_le i).trans_lt (by simpa using hi)
    · exact degree_zero.trans_lt (WithBot.bot_lt_coe 128)
  have hzero : p = 0 :=
    eq_zero_of_dvd_of_degree_lt (AdjoinRoot.mk_eq_zero.mp (hvalue ▸ h)) hdegree
  refine BitVec.eq_of_getMsbD_eq fun i hi => ?_
  have hterm : ∀ j ∈ Finset.range 128,
      (if a.getMsbD j then (X : (ZMod 2)[X]) ^ j else 0).coeff i =
        if i = j then (if a.getMsbD i then 1 else 0) else 0 := by
    intro j _
    by_cases hij : i = j
    · subst hij
      split <;> simp
    · split <;> simp [coeff_X_pow, hij]
  have hcoeff : p.coeff i = if a.getMsbD i then 1 else 0 := by
    rw [finsetSum_coeff, Finset.sum_congr rfl hterm, Finset.sum_ite_eq, if_pos (by simpa using hi)]
  rw [hzero, coeff_zero] at hcoeff
  cases hbit : a.getMsbD i with
  | false => simp
  | true => simp [hbit] at hcoeff

/-- Multiplying by an element other than zero loses nothing. -/
theorem product_injective {b : Element} (hb : b ≠ 0#128) : Function.Injective (product · b) := by
  have : Fact (Irreducible modulus) := ⟨irreducible_modulus⟩
  have : CharP (AdjoinRoot modulus) 2 := charP_of_injective_algebraMap' (ZMod 2) 2
  have hroot : root ^ 128 = root ^ 7 + root ^ 2 + root + 1 := by
    refine root_eq ?_
    rw [AdjoinRoot.aeval_eq, AdjoinRoot.mk_self]
  intro a a' h
  have hvalue : value root a * value root b = value root a' * value root b := by
    rw [← value_product hroot, ← value_product hroot]
    exact congrArg (value root) h
  have hsame : value root a = value root a' :=
    mul_right_cancel₀ (fun hzero => hb (eq_zero_of_value hzero)) hvalue
  have hdifference : a ^^^ a' = 0#128 := by
    refine eq_zero_of_value ?_
    rw [value_xor, hsame, CharTwo.add_self_eq_zero]
  exact BitVec.xor_eq_zero_iff.mp hdifference

end ModelGateway.Gcm

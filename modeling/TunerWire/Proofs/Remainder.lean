import Mathlib.Algebra.CharP.Two
import Mathlib.Algebra.Field.ZMod
import Mathlib.Algebra.Polynomial.Div
import Mathlib.Tactic.ComputeDegree
import Mathlib.Tactic.LinearCombination
import TunerWire.Proofs.Register

/-!
# The checksum as a remainder

A row of bits is a polynomial whose coefficients are taken modulo two, the bit that is sent first
at the highest power (`ofBits`). The register is such a row of 32 bits: bit `k` stands for the
power `31 - k`, so the bit that leaves it in a shift has the highest power (`ofRegister`).

One step of the register is one step of a long division (`ofRegister_pushBit`): the register is
multiplied by `x`, the message bit is added at the power 32, and where this leaves a coefficient at
that power, the generator is taken away once. So what a message leaves in the register is a
remainder (`remainder_eq_pushBits`), and its dividend has the register's start in front of the
message.
-/

namespace TunerWire.Checksum

open Polynomial

/-! ### Rows of bits as polynomials -/

/-- A bit as a number modulo two. -/
def coefficient (bit : Bool) : ZMod 2 := if bit then 1 else 0

theorem coefficient_xor (a b : Bool) :
    coefficient (a ^^ b) = coefficient a + coefficient b := by
  cases a <;> cases b <;> decide

/-- A row of bits as a polynomial, the first bit at the highest power. -/
noncomputable def ofBits : List Bool → (ZMod 2)[X]
  | [] => 0
  | bit :: bits => C (coefficient bit) * X ^ bits.length + ofBits bits

@[simp] theorem ofBits_nil : ofBits [] = 0 := rfl

theorem ofBits_cons (bit : Bool) (bits : List Bool) :
    ofBits (bit :: bits) = C (coefficient bit) * X ^ bits.length + ofBits bits := rfl

theorem ofBits_append (a b : List Bool) :
    ofBits (a ++ b) = ofBits a * X ^ b.length + ofBits b := by
  induction a with
  | nil => rw [List.nil_append, ofBits_nil, zero_mul, zero_add]
  | cons bit a ih =>
    rw [List.cons_append, ofBits_cons, ofBits_cons, ih, List.length_append]
    ring

theorem ofBits_zipWith_xor {a b : List Bool} (hlength : a.length = b.length) :
    ofBits (List.zipWith xor a b) = ofBits a + ofBits b := by
  induction a generalizing b with
  | nil =>
    cases b with
    | nil => rw [List.zipWith_nil_left, ofBits_nil, add_zero]
    | cons _ _ => cases hlength
  | cons x a ih =>
    cases b with
    | nil => cases hlength
    | cons y b =>
      have hrest : a.length = b.length := Nat.succ.inj hlength
      rw [List.zipWith_cons_cons, ofBits_cons, ofBits_cons, ofBits_cons, coefficient_xor, ih hrest,
        List.length_zipWith, hrest, Nat.min_self, C_add]
      ring

theorem ofBits_replicate_true (n : Nat) :
    ofBits (List.replicate n true) = ∑ i ∈ Finset.range n, X ^ i := by
  induction n with
  | zero => rw [List.replicate_zero, ofBits_nil, Finset.sum_range_zero]
  | succ n ih =>
    rw [List.replicate_succ, ofBits_cons, ih, Finset.sum_range_succ, List.length_replicate,
      coefficient, if_pos rfl, C_1, one_mul, add_comm]

theorem degree_ofBits_lt (bits : List Bool) : (ofBits bits).degree < bits.length := by
  induction bits with
  | nil =>
    rw [ofBits_nil, degree_zero]
    exact WithBot.bot_lt_coe 0
  | cons bit bits ih =>
    have hlength : (bits.length : WithBot Nat) < (bit :: bits).length :=
      Nat.cast_lt.mpr (Nat.lt_succ_self bits.length)
    rw [ofBits_cons]
    refine (degree_add_le _ _).trans_lt (max_lt ?_ (ih.trans hlength))
    exact (degree_C_mul_X_pow_le _ _).trans_lt hlength

/-- The coefficients of a row of bits are its bits, the first one at the highest power. -/
theorem coeff_ofBits {bits : List Bool} {bit : Bool} {i : Nat} (h : bits[i]? = some bit) :
    (ofBits bits).coeff (bits.length - 1 - i) = coefficient bit := by
  induction bits generalizing i with
  | nil => cases h
  | cons first bits ih =>
    rw [ofBits_cons, coeff_add, coeff_C_mul_X_pow, List.length_cons, Nat.add_sub_cancel]
    cases i with
    | zero =>
      have hfirst : first = bit := Option.some.inj h
      have hrest : (ofBits bits).coeff bits.length = 0 :=
        coeff_eq_zero_of_degree_lt (degree_ofBits_lt bits)
      rw [Nat.sub_zero, if_pos rfl, hrest, add_zero, hfirst]
    | succ i =>
      rw [List.getElem?_cons_succ] at h
      have hi : i < bits.length := (List.getElem?_eq_some_iff.mp h).1
      have hpower : bits.length - (i + 1) = bits.length - 1 - i := by omega
      rw [if_neg (by omega), zero_add, hpower, ih h]

/-! ### The register as a polynomial -/

/-- A register as a polynomial: bit `k` stands for the power `31 - k`. -/
noncomputable def ofRegister (register : BitVec 32) : (ZMod 2)[X] :=
  ofBits ((List.range 32).map register.getLsbD)

/-- The polynomial by which the checksum divides. -/
noncomputable def generator : (ZMod 2)[X] :=
  X ^ 32 + X ^ 26 + X ^ 23 + X ^ 22 + X ^ 16 + X ^ 12 + X ^ 11 + X ^ 10 + X ^ 8 + X ^ 7 + X ^ 5 +
    X ^ 4 + X ^ 2 + X + 1

theorem ofRegister_xor (r s : BitVec 32) :
    ofRegister (r ^^^ s) = ofRegister r + ofRegister s := by
  have hbits : (List.range 32).map (r ^^^ s).getLsbD =
      List.zipWith xor ((List.range 32).map r.getLsbD) ((List.range 32).map s.getLsbD) :=
    map_eq_zipWith_xor fun _ _ => BitVec.getLsbD_xor
  rw [ofRegister, ofRegister, ofRegister, hbits,
    ofBits_zipWith_xor (by rw [List.length_map, List.length_map])]

theorem degree_ofRegister_lt (register : BitVec 32) : (ofRegister register).degree < 32 := by
  have h := degree_ofBits_lt ((List.range 32).map register.getLsbD)
  rwa [List.length_map, List.length_range] at h

theorem coeff_ofRegister (register : BitVec 32) {k : Nat} (hk : k ≤ 31) :
    (ofRegister register).coeff (31 - k) = coefficient (register.getLsbD k) := by
  have hbit : ((List.range 32).map register.getLsbD)[k]? = some (register.getLsbD k) := by
    rw [List.getElem?_map, List.getElem?_range (Nat.lt_succ_of_le hk), Option.map_some]
  have h := coeff_ofBits hbit
  rwa [List.length_map, List.length_range] at h

theorem map_getLsbD_range_succ (register : BitVec 32) (n : Nat) :
    (List.range n).map register.getLsbD ++ [register.getLsbD n] =
      register.getLsbD 0 :: (List.range n).map (register >>> 1).getLsbD := by
  have hshift (i : Nat) : (register >>> 1).getLsbD i = register.getLsbD (i + 1) := by
    rw [BitVec.getLsbD_ushiftRight, Nat.add_comm]
  calc
    (List.range n).map register.getLsbD ++ [register.getLsbD n] =
        (List.range (n + 1)).map register.getLsbD := by
      rw [List.range_succ, List.map_append, List.map_singleton]
    _ = register.getLsbD 0 :: (List.range n).map (register >>> 1).getLsbD := by
      rw [List.range_succ_eq_map, List.map_cons, List.map_map]
      congr 1
      exact List.map_congr_left fun i _ => (hshift i).symm

/-- A shift multiplies by `x`, less the bit that leaves the register. -/
theorem ofRegister_ushiftRight_one (register : BitVec 32) :
    ofRegister (register >>> 1) + C (coefficient (register.getLsbD 0)) * X ^ 32 =
      ofRegister register * X := by
  have hbits := map_getLsbD_range_succ register 32
  rw [BitVec.getLsbD_of_ge register 32 le_rfl] at hbits
  have hzero : ofBits [false] = 0 := by simp [ofBits_cons, coefficient]
  have h := congrArg ofBits hbits
  rw [ofBits_append, hzero, ofBits_cons, List.length_map, List.length_range, List.length_singleton,
    pow_one, add_zero] at h
  rw [ofRegister, ofRegister, h, add_comm]

/-- What a step adds to the register is the generator below its leading power. -/
theorem ofRegister_polynomial : ofRegister polynomial + X ^ 32 = generator := by
  have hbits : (List.range 32).map polynomial.getLsbD =
      [false, false, false, false, false, true, false, false, true, true, false, false, false, false,
        false, true, false, false, false, true, true, true, false, true, true, false, true, true,
        false, true, true, true] := by
    decide
  rw [ofRegister, hbits, generator]
  simp only [ofBits_cons, ofBits_nil, List.length_cons, List.length_nil, coefficient,
    Bool.false_eq_true, if_false, if_true, C_0, C_1, zero_mul, one_mul]
  ring

theorem degree_generator : generator.degree = 32 := by
  rw [generator]
  compute_degree!

theorem monic_generator : generator.Monic := by
  rw [generator]
  monicity!

theorem ofRegister_zero : ofRegister 0#32 = 0 := by
  have h := ofRegister_xor 0#32 0#32
  rwa [BitVec.xor_self, left_eq_add] at h

/-- Where the bit is set, the feedback and the power 32 make up the generator. -/
theorem ofRegister_feedback (bit : Bool) :
    ofRegister (feedback bit) + C (coefficient bit) * X ^ 32 = C (coefficient bit) * generator := by
  cases bit with
  | false => simp [feedback, coefficient, ofRegister_zero]
  | true => simp [feedback, coefficient, ofRegister_polynomial]

theorem ofRegister_allOnes : ofRegister (BitVec.allOnes 32) = ∑ i ∈ Finset.range 32, X ^ i := by
  have hbits : (List.range 32).map (BitVec.allOnes 32).getLsbD = List.replicate 32 true := by
    decide
  rw [ofRegister, hbits, ofBits_replicate_true]

/-! ### Division -/

/-- **One step of a long division.** The register is multiplied by `x` and the bit is added at the
power 32. The generator is taken away where this leaves a coefficient at that power. -/
theorem ofRegister_pushBit (register : BitVec 32) (bit : Bool) :
    ofRegister (pushBit register bit) +
        generator * C (coefficient (register.getLsbD 0 ^^ bit)) =
      ofRegister register * X + C (coefficient bit) * X ^ 32 := by
  have hshift := ofRegister_ushiftRight_one register
  have hfeedback := ofRegister_feedback (register.getLsbD 0 ^^ bit)
  have htwo : (2 : (ZMod 2)[X]) = 0 := CharTwo.two_eq_zero
  rw [pushBit_eq, ofRegister_xor]
  rw [coefficient_xor, C_add] at hfeedback ⊢
  linear_combination hshift + hfeedback + (C (coefficient (register.getLsbD 0)) +
    C (coefficient bit)) * (generator - X ^ 32) * htwo

/-- What a row of bits leaves in a register differs by a multiple of the generator from the row,
with the register in front of it. -/
theorem exists_ofRegister_pushBits (register : BitVec 32) (bits : List Bool) :
    ∃ quotient, ofRegister (pushBits register bits) + generator * quotient =
      ofRegister register * X ^ bits.length + ofBits bits * X ^ 32 := by
  induction bits generalizing register with
  | nil =>
    have hstart : pushBits register [] = register := rfl
    refine ⟨0, ?_⟩
    rw [hstart, List.length_nil, ofBits_nil, pow_zero, mul_one, zero_mul, mul_zero]
  | cons bit bits ih =>
    obtain ⟨quotient, hrest⟩ := ih (pushBit register bit)
    have hstep := ofRegister_pushBit register bit
    -- The digit of this step is the leading one of the quotient.
    refine ⟨C (coefficient (register.getLsbD 0 ^^ bit)) * X ^ bits.length + quotient, ?_⟩
    rw [pushBits_cons, List.length_cons, ofBits_cons]
    linear_combination hrest + X ^ bits.length * hstep

/-- **The register is a remainder**, whatever it was and whatever bits went in. -/
theorem remainder_eq_pushBits (register : BitVec 32) (bits : List Bool) :
    (ofRegister register * X ^ bits.length + ofBits bits * X ^ 32) %ₘ generator =
      ofRegister (pushBits register bits) := by
  obtain ⟨quotient, h⟩ := exists_ofRegister_pushBits register bits
  have hdegree : (ofRegister (pushBits register bits)).degree < generator.degree := by
    rw [degree_generator]
    exact degree_ofRegister_lt _
  exact (div_modByMonic_unique quotient _ monic_generator ⟨h, hdegree⟩).2

theorem testBit_xor_crc32 (message : Bytes) (k : Nat) :
    ((crc32 message).toNat ^^^ 0xFFFFFFFF).testBit k =
      (pushBytes (BitVec.allOnes 32) message).getLsbD k := by
  have hones : (0xFFFFFFFF : Nat) = (BitVec.allOnes 32).toNat := rfl
  rw [hones, ← BitVec.toNat_xor, BitVec.testBit_toNat, BitVec.xor_allOnes, crc32, BitVec.not_not]

/-- **The checksum is the remainder of a division of polynomials.** It is a number of 32 bits, and
bit `k` of its complement is the coefficient at the power `31 - k` of what is left of the message
times `x^32`, and 32 ones in front of the message, after division by the generator. The message is
read with its bytes in order, each from its least significant bit, and its first bit at the highest
power. -/
theorem crc32_remainder (message : Bytes) :
    (crc32 message).toNat ≤ 0xFFFFFFFF ∧
    ∀ k ≤ 31, coefficient (((crc32 message).toNat ^^^ 0xFFFFFFFF).testBit k) =
      ((ofBits (bits message) * X ^ 32 +
        (∑ i ∈ Finset.range 32, X ^ i) * X ^ (8 * message.length)) %ₘ generator).coeff (31 - k) := by
  constructor
  · exact Nat.le_of_lt_succ (crc32 message).isLt
  · intro k hk
    rw [testBit_xor_crc32, ← coeff_ofRegister _ hk, pushBytes_eq_pushBits,
      ← remainder_eq_pushBits, ofRegister_allOnes, length_bits, add_comm]

/-- The digits from one to nine in ASCII. The first bit of their checksum is clear and the last one
is set, so it is the other way round in the remainder. -/
theorem crc32_remainder_digits :
    crc32 [49, 50, 51, 52, 53, 54, 55, 56, 57] = 0xCBF43926#32 ∧
      (0 ≤ 31 ∧ ((ofBits (bits [49, 50, 51, 52, 53, 54, 55, 56, 57]) * X ^ 32 +
        (∑ i ∈ Finset.range 32, X ^ i) * X ^ 72) %ₘ generator).coeff 31 = 1) ∧
      (31 ≤ 31 ∧ ((ofBits (bits [49, 50, 51, 52, 53, 54, 55, 56, 57]) * X ^ 32 +
        (∑ i ∈ Finset.range 32, X ^ i) * X ^ 72) %ₘ generator).coeff 0 = 0) := by
  have hvalue : crc32 [49, 50, 51, 52, 53, 54, 55, 56, 57] = 0xCBF43926#32 := by decide +kernel
  have hfirst := (crc32_remainder [49, 50, 51, 52, 53, 54, 55, 56, 57]).2 0 (by decide)
  have hlast := (crc32_remainder [49, 50, 51, 52, 53, 54, 55, 56, 57]).2 31 (by decide)
  rw [hvalue] at hfirst hlast
  exact ⟨hvalue, ⟨by decide, hfirst.symm.trans (by decide +kernel)⟩,
    ⟨by decide, hlast.symm.trans (by decide +kernel)⟩⟩

end TunerWire.Checksum

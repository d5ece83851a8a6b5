import Mathlib.Dynamics.PeriodicPts.Defs
import Mathlib.Tactic.NormNum.Prime
import TunerWire.Proofs.Register

/-!
# The period of the register

Zero bits turn the register over (`pushZero`), and after `2^32 - 1` of them it is what it was, but
never before: the polynomial is primitive. A bit that is flipped leaves the polynomial in an empty
register, so this says how far apart two flipped bits have to be before the second one can undo
the first.

The period is far too long to be walked through. Registers are polynomials, and they can be
multiplied (`times`): the register after `n` zero bits is the power `n` of `x`, times what it was
(`times_iterate`). So a run of zero bits is computed by squaring (`jump`), in as many steps as
its length has binary digits. A shorter period would divide the long one with a prime to spare,
and there are five primes to rule out.
-/

namespace TunerWire.Checksum

open Function

/-! ### Zero bits -/

/-- The register when a zero bit has gone in. -/
def pushZero (register : BitVec 32) : BitVec 32 := pushBit register false

theorem pushZero_xor (r s : BitVec 32) : pushZero (r ^^^ s) = pushZero r ^^^ pushZero s :=
  pushBit_xor r s false false

theorem pushZero_zero : pushZero 0#32 = 0#32 := by decide

theorem pushBits_replicate_false (register : BitVec 32) (n : Nat) :
    pushBits register (List.replicate n false) = pushZero^[n] register := by
  induction n generalizing register with
  | zero => rfl
  | succ n ih => rw [List.replicate_succ, pushBits_cons, ih, iterate_succ_apply, pushZero]

theorem iterate_pushZero_xor (n : Nat) (r s : BitVec 32) :
    pushZero^[n] (r ^^^ s) = pushZero^[n] r ^^^ pushZero^[n] s := by
  induction n generalizing r s with
  | zero => rfl
  | succ n ih => simp only [iterate_succ_apply, pushZero_xor, ih]

/-! ### Linear maps -/

/-- A register whose bits from `n` on are clear, with bit `n` taken out of it. -/
theorem getLsbD_xor_twoPow {r : BitVec 32} {n : Nat} (hn : n < 32) (hbit : r.getLsbD n = true)
    (hclear : ∀ i, n + 1 ≤ i → r.getLsbD i = false) (i : Nat) (hi : n ≤ i) :
    (r ^^^ BitVec.twoPow 32 n).getLsbD i = false := by
  rw [BitVec.getLsbD_xor, BitVec.getLsbD_twoPow]
  rcases Nat.eq_or_lt_of_le hi with rfl | hlt
  · simp [hbit, hn]
  · have hne : n ≠ i := by omega
    simp [hclear i hlt, hne]

/-- Linear maps that agree on the registers of one bit are the same. -/
theorem eq_of_linear {f g : BitVec 32 → BitVec 32} (hf : ∀ r s, f (r ^^^ s) = f r ^^^ f s)
    (hg : ∀ r s, g (r ^^^ s) = g r ^^^ g s)
    (h : ∀ i < 32, f (BitVec.twoPow 32 i) = g (BitVec.twoPow 32 i)) (r : BitVec 32) :
    f r = g r := by
  -- Bits are taken out from the top, until the register is empty.
  have hbelow (n : Nat) (hn : n ≤ 32) :
      ∀ r : BitVec 32, (∀ i, n ≤ i → r.getLsbD i = false) → f r = g r := by
    induction n with
    | zero =>
      intro r hr
      have hzero : r = 0#32 := by
        apply BitVec.eq_of_getLsbD_eq
        intro i _
        rw [hr i (Nat.zero_le i), BitVec.getLsbD_zero]
      have hf0 := hf 0#32 0#32
      have hg0 := hg 0#32 0#32
      rw [BitVec.xor_self, BitVec.xor_self] at hf0 hg0
      rw [hzero, hf0, hg0]
    | succ n ih =>
      intro r hr
      cases hbit : r.getLsbD n with
      | false =>
        apply ih (by omega)
        intro i hi
        rcases Nat.eq_or_lt_of_le hi with rfl | hlt
        · exact hbit
        · exact hr i hlt
      | true =>
        have hrest := ih (by omega) _ (getLsbD_xor_twoPow hn hbit hr)
        have hback : r ^^^ BitVec.twoPow 32 n ^^^ BitVec.twoPow 32 n = r := by
          rw [BitVec.xor_assoc, BitVec.xor_self, BitVec.xor_zero]
        rw [← hback, hf, hg, hrest, h n hn]
  exact hbelow 32 le_rfl r fun i hi => BitVec.getLsbD_of_ge r i hi

/-! ### Products -/

/-- The register where the bit is set, and the empty one where it is not. -/
def scale (bit : Bool) (r : BitVec 32) : BitVec 32 := if bit then r else 0#32

theorem scale_xor_left (a b : Bool) (r : BitVec 32) :
    scale (a ^^ b) r = scale a r ^^^ scale b r := by
  cases a <;> cases b <;> simp [scale]

theorem scale_xor_right (bit : Bool) (r s : BitVec 32) :
    scale bit (r ^^^ s) = scale bit r ^^^ scale bit s := by
  cases bit <;> simp [scale]

theorem scale_pushZero (bit : Bool) (r : BitVec 32) :
    scale bit (pushZero r) = pushZero (scale bit r) := by
  cases bit <;> simp [scale, pushZero_zero]

/-- The sum of what zero bits make of a register one after the other, over the bits that are
set. -/
def combine : List Bool → BitVec 32 → BitVec 32
  | [], _ => 0#32
  | bit :: bits, r => scale bit r ^^^ combine bits (pushZero r)

theorem combine_xor_right (bits : List Bool) (r s : BitVec 32) :
    combine bits (r ^^^ s) = combine bits r ^^^ combine bits s := by
  induction bits generalizing r s with
  | nil => exact (BitVec.xor_self (x := 0#32)).symm
  | cons bit bits ih =>
    rw [combine, combine, combine, pushZero_xor, ih, scale_xor_right]
    ac_rfl

theorem combine_xor_left {a b : List Bool} (hlength : a.length = b.length) (r : BitVec 32) :
    combine (List.zipWith xor a b) r = combine a r ^^^ combine b r := by
  induction a generalizing b r with
  | nil =>
    cases b with
    | nil => exact (BitVec.xor_self (x := 0#32)).symm
    | cons _ _ => cases hlength
  | cons x a ih =>
    cases b with
    | nil => cases hlength
    | cons y b =>
      rw [List.zipWith_cons_cons, combine, combine, combine, ih (Nat.succ.inj hlength),
        scale_xor_left]
      ac_rfl

theorem combine_pushZero (bits : List Bool) (r : BitVec 32) :
    combine bits (pushZero r) = pushZero (combine bits r) := by
  induction bits generalizing r with
  | nil => exact pushZero_zero.symm
  | cons bit bits ih => rw [combine, combine, pushZero_xor, ih, scale_pushZero]

/-- The product of two registers, as polynomials modulo the polynomial of the checksum. -/
def times (r s : BitVec 32) : BitVec 32 := combine ((List.range 32).map r.getMsbD) s

/-- The register that stands for the polynomial `1`. -/
def one : BitVec 32 := 0x80000000#32

theorem times_xor_left (r r' s : BitVec 32) : times (r ^^^ r') s = times r s ^^^ times r' s := by
  have hbits : (List.range 32).map (r ^^^ r').getMsbD =
      List.zipWith xor ((List.range 32).map r.getMsbD) ((List.range 32).map r'.getMsbD) :=
    map_eq_zipWith_xor fun _ _ => BitVec.getMsbD_xor
  rw [times, hbits, combine_xor_left (by rw [List.length_map, List.length_map])]
  rfl

theorem times_xor_right (r s s' : BitVec 32) : times r (s ^^^ s') = times r s ^^^ times r s' :=
  combine_xor_right _ s s'

theorem times_one (r : BitVec 32) : times r one = r := by
  refine eq_of_linear (f := fun r => times r one) (g := id) ?_ (fun _ _ => rfl) ?_ r
  · intro r r'
    exact times_xor_left r r' one
  · decide +kernel

theorem times_iterate_right (r s : BitVec 32) (n : Nat) :
    times r (pushZero^[n] s) = pushZero^[n] (times r s) := by
  induction n generalizing s with
  | zero => rfl
  | succ n ih => rw [iterate_succ_apply, iterate_succ_apply, ih, times, combine_pushZero, times]

/-- A register of one bit is a power of `x`. -/
theorem iterate_one_eq_twoPow {i : Nat} (hi : i < 32) :
    pushZero^[31 - i] one = BitVec.twoPow 32 i := by
  have h : ∀ i < 32, pushZero^[31 - i] one = BitVec.twoPow 32 i := by decide +kernel
  exact h i hi

/-- To multiply by the power `n` of `x` is to take in `n` zero bits. -/
theorem times_iterate (n : Nat) (r : BitVec 32) :
    times (pushZero^[n] one) r = pushZero^[n] r := by
  refine eq_of_linear (times_xor_right _) (iterate_pushZero_xor n) ?_ r
  intro i hi
  -- A register of one bit is itself a power, and powers commute.
  rw [← iterate_one_eq_twoPow hi, times_iterate_right, times_one, ← iterate_add_apply,
    ← iterate_add_apply, Nat.add_comm]

/-! ### Long runs of zero bits -/

/-- The register when `n` strides have been made, by squaring the stride at each binary digit of
`n`. -/
def jump : Nat → BitVec 32 → Nat → BitVec 32 → BitVec 32
  | 0, _, _, r => r
  | width + 1, stride, n, r =>
    jump width (times stride stride) (n / 2) (if n % 2 = 1 then times stride r else r)

theorem jump_eq_iterate {width n : Nat} (hn : n < 2 ^ width) (k : Nat) (r : BitVec 32) :
    jump width (pushZero^[k] one) n r = pushZero^[k * n] r := by
  induction width generalizing k n r with
  | zero =>
    have hzero : n = 0 := by simpa using hn
    rw [hzero, jump, Nat.mul_zero, iterate_zero_apply]
  | succ width ih =>
    have hhalf : n / 2 < 2 ^ width := by
      rw [pow_succ] at hn
      omega
    rw [jump, times_iterate, ← iterate_add_apply, ih hhalf, times_iterate]
    rcases Nat.mod_two_eq_zero_or_one n with hmod | hmod
    · have hlength : (k + k) * (n / 2) = k * n := by
        rw [← Nat.two_mul, Nat.mul_comm 2, Nat.mul_assoc]
        congr 1
        omega
      rw [hmod, if_neg Nat.zero_ne_one, hlength]
    · have hlength : (k + k) * (n / 2) + k = k * n := by
        rw [← Nat.two_mul, Nat.mul_comm 2, Nat.mul_assoc, ← Nat.mul_succ]
        congr 1
        omega
      rw [hmod, if_pos rfl, ← iterate_add_apply, hlength]

/-- The number of registers that are not empty. -/
def period : Nat := 4294967295

theorem iterate_eq_jump {n : Nat} (hn : n ≤ period) (r : BitVec 32) :
    pushZero^[n] r = jump 32 (pushZero one) n r := by
  have h := jump_eq_iterate (Nat.lt_of_le_of_lt hn (by decide) : n < 2 ^ 32) 1 r
  rw [iterate_one, Nat.one_mul] at h
  exact h.symm

theorem prime_dvd_period {p : Nat} (hp : p.Prime) (h : p ∣ period) :
    p ∈ [3, 5, 17, 257, 65537] := by
  have hfactors : period = 3 * 5 * 17 * 257 * 65537 := rfl
  simp only [hfactors, hp.dvd_mul] at h
  have h3 : Nat.Prime 3 := by norm_num
  have h5 : Nat.Prime 5 := by norm_num
  have h17 : Nat.Prime 17 := by norm_num
  have h257 : Nat.Prime 257 := by norm_num
  have h65537 : Nat.Prime 65537 := by norm_num
  simp only [Nat.prime_dvd_prime_iff_eq hp, h3, h5, h17, h257, h65537] at h
  simp only [List.mem_cons, List.not_mem_nil, or_false]
  omega

/-- **The polynomial is primitive**: zero bits bring it back to itself after `2^32 - 1` of them,
and not before. -/
theorem minimalPeriod_polynomial : minimalPeriod pushZero polynomial = period := by
  have hback : IsPeriodicPt pushZero period polynomial := by
    show pushZero^[period] polynomial = polynomial
    rw [iterate_eq_jump le_rfl]
    decide +kernel
  have hearlier : ∀ p ∈ [3, 5, 17, 257, 65537],
      jump 32 (pushZero one) (period / p) polynomial ≠ polynomial := by
    decide +kernel
  by_contra hne
  obtain ⟨m, hm⟩ := hback.minimalPeriod_dvd
  have hm1 : m ≠ 1 := by
    rintro rfl
    rw [Nat.mul_one] at hm
    exact hne hm.symm
  obtain ⟨p, hp, hpm⟩ := Nat.exists_prime_and_dvd hm1
  have hpperiod : p ∣ period := hm ▸ hpm.mul_left _
  -- The prime can be left out of the long period, and what is left is still a period.
  have hshort : minimalPeriod pushZero polynomial ∣ period / p := by
    obtain ⟨q, rfl⟩ := hpm
    refine ⟨q, ?_⟩
    rw [hm, Nat.mul_left_comm, Nat.mul_div_cancel_left _ hp.pos]
  apply hearlier p (prime_dvd_period hp hpperiod)
  rw [← iterate_eq_jump (Nat.div_le_self _ _)]
  exact isPeriodicPt_iff_minimalPeriod_dvd.mpr hshort

end TunerWire.Checksum

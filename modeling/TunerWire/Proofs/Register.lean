import Mathlib.Data.List.GetD
import Mathlib.Tactic.ByContra
import TunerWire.Frame

/-!
# The checksum register

The register takes in one bit at a time, and three facts about one bit carry everything that is
known of whole messages here. The step is linear in the register and the bit (`pushBit_xor`), so
what two messages leave differs by what their difference leaves in an empty register. The top bit
of the polynomial is set, so after a step the top bit of the register shows whether the polynomial
was added (`getLsbD_pushBit_top`), and up to 32 steps can be traced back
(`getLsbD_of_pushBits_eq_zero`). And a register takes in its own bits without any feedback, so it
empties (`pushBits_own`): this is why a message with its checksum behind it always leaves the same
`residue`.
-/

namespace TunerWire.Checksum

open Octets

/-! ### Bits of a message -/

/-- The bits of a message in the order they are sent. -/
def bits (message : Bytes) : List Bool := message.flatMap bitsOf

/-- Bit `k` of a message: bit `k % 8` of byte `k / 8`, counted from the least significant one. -/
def bitAt (message : Bytes) (k : Nat) : Bool :=
  (message.getD (k / 8) 0).toBitVec.getLsbD (k % 8)

@[simp] theorem length_bitsOf (byte : UInt8) : (bitsOf byte).length = 8 := by
  rw [bitsOf, List.length_map, List.length_range]

theorem getElem?_bitsOf (byte : UInt8) {k : Nat} (h : k < 8) :
    (bitsOf byte)[k]? = some (byte.toBitVec.getLsbD k) := by
  rw [bitsOf, List.getElem?_map, List.getElem?_range h]
  rfl

theorem bits_cons (byte : UInt8) (message : Bytes) :
    bits (byte :: message) = bitsOf byte ++ bits message := rfl

@[simp] theorem length_bits (message : Bytes) : (bits message).length = 8 * message.length := by
  induction message with
  | nil => rfl
  | cons byte message ih =>
    rw [bits_cons, List.length_append, length_bitsOf, ih, List.length_cons]
    omega

theorem getElem?_bits {message : Bytes} {k : Nat} (h : k < 8 * message.length) :
    (bits message)[k]? = some (bitAt message k) := by
  induction message generalizing k with
  | nil => simp at h
  | cons byte message ih =>
    rw [bits_cons, bitAt]
    by_cases hk : k < 8
    · have hfirst : k / 8 = 0 := by omega
      rw [List.getElem?_append_left (by rwa [length_bitsOf]), getElem?_bitsOf byte hk, hfirst,
        Nat.mod_eq_of_lt hk, List.getD_cons_zero]
    · rw [List.length_cons] at h
      have hrest : k / 8 = (k - 8) / 8 + 1 := by omega
      have hbit : k % 8 = (k - 8) % 8 := by omega
      rw [List.getElem?_append_right (by rw [length_bitsOf]; omega), length_bitsOf,
        ih (by omega), hrest, hbit, List.getD_cons_succ, bitAt]

theorem eq_of_bitAt_eq {a b : Bytes} (hlength : a.length = b.length)
    (h : ∀ k, bitAt a k = bitAt b k) : a = b := by
  apply List.ext_getElem hlength
  intro i ha hb
  apply UInt8.toBitVec_inj.mp
  apply BitVec.eq_of_getLsbD_eq
  intro j hj
  have hbit := h (8 * i + j)
  have hdiv : (8 * i + j) / 8 = i := by omega
  have hmod : (8 * i + j) % 8 = j := by omega
  rwa [bitAt, bitAt, hdiv, hmod, List.getD_eq_getElem _ _ ha, List.getD_eq_getElem _ _ hb] at hbit

theorem bits_littleEndian (k n : Nat) :
    bits (littleEndian k n) = (List.range (8 * k)).map n.testBit := by
  induction k generalizing n with
  | zero => rfl
  | succ k ih =>
    have hbyte : bitsOf (UInt8.ofNat n) = (List.range 8).map n.testBit := by
      apply List.map_congr_left
      intro i hi
      rw [UInt8.toBitVec_ofNat', BitVec.getLsbD_ofNat, decide_eq_true (List.mem_range.mp hi),
        Bool.true_and]
    have hrest (i : Nat) : (n / 256).testBit i = n.testBit (8 + i) := by
      rw [Nat.add_comm]
      exact Nat.testBit_div_two_pow (n := 8) n i
    rw [littleEndian, bits_cons, hbyte, ih, Nat.mul_succ, Nat.add_comm, List.range_add,
      List.map_append, List.map_map]
    congr 1
    apply List.map_congr_left
    intro i _
    exact hrest i

/-! ### One bit -/

/-- What a step adds to the register when the bit that leaves it is `b`. -/
def feedback (b : Bool) : BitVec 32 := if b then polynomial else 0#32

theorem feedback_xor (a b : Bool) : feedback (a ^^ b) = feedback a ^^^ feedback b := by
  cases a <;> cases b <;> simp [feedback]

/-- A step shifts the register and adds the polynomial where a bit leaves it. -/
theorem pushBit_eq (register : BitVec 32) (bit : Bool) :
    pushBit register bit = (register >>> 1) ^^^ feedback (register.getLsbD 0 ^^ bit) := by
  show (if register.getLsbD 0 ^^ bit then (register >>> 1) ^^^ polynomial else register >>> 1) = _
  cases register.getLsbD 0 ^^ bit <;> simp [feedback]

/-- A step is linear. -/
theorem pushBit_xor (r s : BitVec 32) (a b : Bool) :
    pushBit (r ^^^ s) (a ^^ b) = pushBit r a ^^^ pushBit s b := by
  have hbits : ((r.getLsbD 0 ^^ s.getLsbD 0) ^^ (a ^^ b)) =
      ((r.getLsbD 0 ^^ a) ^^ (s.getLsbD 0 ^^ b)) := by
    rw [Bool.xor_assoc, Bool.xor_assoc, Bool.xor_left_comm (s.getLsbD 0)]
  rw [pushBit_eq, pushBit_eq, pushBit_eq, BitVec.getLsbD_xor, hbits, feedback_xor,
    BitVec.ushiftRight_xor_distrib]
  ac_rfl

theorem getLsbD_pushBit_top (register : BitVec 32) (bit : Bool) :
    (pushBit register bit).getLsbD 31 = (register.getLsbD 0 ^^ bit) := by
  rw [pushBit_eq, BitVec.getLsbD_xor, BitVec.getLsbD_ushiftRight,
    BitVec.getLsbD_of_ge register (1 + 31) (by decide), Bool.false_xor]
  cases register.getLsbD 0 ^^ bit <;> decide

/-! ### Many bits -/

/-- The register when a row of bits has gone in. -/
def pushBits (register : BitVec 32) (bits : List Bool) : BitVec 32 :=
  bits.foldl pushBit register

theorem pushBits_cons (register : BitVec 32) (bit : Bool) (bits : List Bool) :
    pushBits register (bit :: bits) = pushBits (pushBit register bit) bits := rfl

theorem pushBits_append (register : BitVec 32) (a b : List Bool) :
    pushBits register (a ++ b) = pushBits (pushBits register a) b :=
  List.foldl_append

theorem pushBytes_eq_pushBits (register : BitVec 32) (message : Bytes) :
    pushBytes register message = pushBits register (bits message) :=
  pushBytes_eq_foldl_bits register message

/-- A row in which each bit is the difference of two bits is the difference of two rows. -/
theorem map_eq_zipWith_xor {f g h : Nat → Bool} {positions : List Nat}
    (hbits : ∀ i ∈ positions, h i = (f i ^^ g i)) :
    positions.map h = List.zipWith xor (positions.map f) (positions.map g) := by
  rw [List.zipWith_map, List.zipWith_self]
  exact List.map_congr_left hbits

/-- What two rows of bits leave differs by what their difference leaves. -/
theorem pushBits_zipWith_xor {a b : List Bool} (hlength : a.length = b.length) (r s : BitVec 32) :
    pushBits (r ^^^ s) (List.zipWith xor a b) = pushBits r a ^^^ pushBits s b := by
  induction a generalizing b r s with
  | nil =>
    cases b with
    | nil => rfl
    | cons _ _ => cases hlength
  | cons x a ih =>
    cases b with
    | nil => cases hlength
    | cons y b =>
      rw [List.zipWith_cons_cons, pushBits_cons, pushBit_xor, ih (Nat.succ.inj hlength)]
      rfl

theorem pushBits_zero_replicate_false (n : Nat) :
    pushBits 0#32 (List.replicate n false) = 0#32 := by
  induction n with
  | zero => rfl
  | succ n ih =>
    have hstep : pushBit 0#32 false = 0#32 := by decide
    rw [List.replicate_succ, pushBits_cons, hstep, ih]

/-- Up to 32 bits that empty the register are the bits that were in it. -/
theorem getLsbD_of_pushBits_eq_zero {register : BitVec 32} {bits : List Bool}
    (hlength : bits.length ≤ 32) (h : pushBits register bits = 0#32) (i : Nat) :
    register.getLsbD i = bits.getD i false := by
  induction bits generalizing register i with
  | nil =>
    have hzero : register = 0#32 := h
    rw [hzero, BitVec.getLsbD_zero, List.getD_nil]
  | cons bit bits ih =>
    rw [List.length_cons] at hlength
    rw [pushBits_cons] at h
    have hrest := ih (by omega) h
    -- The rest has fewer than 32 bits, so the top bit is clear and there was no feedback.
    have htop : (register.getLsbD 0 ^^ bit) = false := by
      rw [← getLsbD_pushBit_top, hrest, List.getD_eq_default _ _ (by omega)]
    cases i with
    | zero =>
      rw [List.getD_cons_zero]
      exact bne_eq_false_iff_eq.mp htop
    | succ i =>
      have hshift : (pushBit register bit).getLsbD i = register.getLsbD (i + 1) := by
        rw [pushBit_eq, htop, feedback, if_neg (by decide), BitVec.xor_zero,
          BitVec.getLsbD_ushiftRight, Nat.add_comm]
      rw [List.getD_cons_succ, ← hrest, hshift]

/-- Zero bits do not empty a register. -/
theorem eq_zero_of_pushBits_replicate_false {register : BitVec 32} {n : Nat}
    (h : pushBits register (List.replicate n false) = 0#32) : register = 0#32 := by
  induction n generalizing register with
  | zero => exact h
  | succ n ih =>
    rw [List.replicate_succ, pushBits_cons] at h
    have hstep : pushBits register [false] = 0#32 := ih h
    apply BitVec.eq_of_getLsbD_eq
    intro i _
    rw [getLsbD_of_pushBits_eq_zero (by decide) hstep, BitVec.getLsbD_zero]
    cases i <;> rfl

/-! ### The residue -/

/-- A register takes its own low bits in without feedback, and only shifts. -/
theorem pushBits_own (register : BitVec 32) (n : Nat) :
    pushBits register ((List.range n).map register.getLsbD) = register >>> n := by
  induction n with
  | zero => exact (BitVec.ushiftRight_zero register).symm
  | succ n ih =>
    have hlow : (register >>> n).getLsbD 0 = register.getLsbD n := BitVec.getLsbD_ushiftRight ..
    rw [List.range_succ, List.map_append, pushBits_append, ih, List.map_singleton, pushBits_cons,
      pushBit_eq, hlow, Bool.xor_self, feedback, if_neg (by decide), BitVec.xor_zero,
      ← BitVec.shiftRight_add]
    rfl

/-- What a message with its checksum behind it leaves in the register. -/
def residue : BitVec 32 := 0xDEBB20E3#32

/-- A register that takes in its own complement is left with the residue. -/
theorem pushBits_complement (register : BitVec 32) :
    pushBits register ((List.range 32).map (~~~ register).getLsbD) = residue := by
  have hbits : (List.range 32).map (~~~ register).getLsbD =
      List.zipWith xor ((List.range 32).map register.getLsbD)
        ((List.range 32).map fun _ => true) := by
    apply map_eq_zipWith_xor
    intro i hi
    rw [BitVec.getLsbD_not, decide_eq_true (List.mem_range.mp hi), Bool.true_and, Bool.xor_true]
  have hempty : pushBits register ((List.range 32).map register.getLsbD) = 0#32 := by
    rw [pushBits_own]
    exact BitVec.ushiftRight_eq_zero (Nat.le_refl 32)
  have hlinear := pushBits_zipWith_xor (by rw [List.length_map, List.length_map]) register 0#32
    (a := (List.range 32).map register.getLsbD) (b := (List.range 32).map fun _ => true)
  rw [BitVec.xor_zero, hempty, BitVec.zero_xor] at hlinear
  rw [hbits, hlinear]
  decide +kernel

/-- A message with its checksum behind it leaves the residue, whatever the message. -/
theorem pushBytes_withChecksum (body : Bytes) :
    pushBytes (BitVec.allOnes 32) (Frame.withChecksum body) = residue := by
  have htrailer : bits (littleEndian Frame.checksumSize (crc32 body).toNat) =
      (List.range 32).map (~~~ pushBytes (BitVec.allOnes 32) body).getLsbD :=
    bits_littleEndian 4 (crc32 body).toNat
  rw [Frame.withChecksum, pushBytes_append, pushBytes_eq_pushBits _ (littleEndian _ _), htrailer,
    pushBits_complement]

/-! ### Two messages -/

/-- The bits in which two messages differ. -/
def difference (a b : Bytes) : List Bool := List.zipWith xor (bits a) (bits b)

theorem bitAt_of_le {message : Bytes} {k : Nat} (h : 8 * message.length ≤ k) :
    bitAt message k = false := by
  rw [bitAt, List.getD_eq_default _ _ (by omega)]
  exact BitVec.getLsbD_zero

theorem getElem?_difference_eq_some_true {a b : Bytes} (hlength : a.length = b.length) {k : Nat} :
    (difference a b)[k]? = some true ↔ bitAt a k ≠ bitAt b k := by
  by_cases hk : k < 8 * a.length
  · rw [difference, List.getElem?_zipWith, getElem?_bits hk, getElem?_bits (by omega)]
    simp
  · rw [difference, List.getElem?_eq_none (by simp; omega), bitAt_of_le (by omega),
      bitAt_of_le (by omega)]
    simp

theorem true_mem_difference {a b : Bytes} (hlength : a.length = b.length) (hne : a ≠ b) :
    true ∈ difference a b := by
  by_contra hnone
  apply hne
  apply eq_of_bitAt_eq hlength
  intro k
  by_contra hk
  exact hnone (List.mem_of_getElem? ((getElem?_difference_eq_some_true hlength).mpr hk))

/-- Two messages leave registers that differ by what their difference leaves in an empty one. -/
theorem pushBits_difference {a b : Bytes} (hlength : a.length = b.length)
    (register : BitVec 32) :
    pushBits 0#32 (difference a b) = pushBytes register a ^^^ pushBytes register b := by
  rw [pushBytes_eq_pushBits, pushBytes_eq_pushBits, ← pushBits_zipWith_xor (by simp [hlength]),
    BitVec.xor_self, difference]

end TunerWire.Checksum

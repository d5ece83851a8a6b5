import TunerWire.Window

/-!
# Tag lengths

The length of an attribute's payload takes one byte or two. A length up to 127 is one byte with
the high bit clear. A longer one is two bytes: the low seven bits with the high bit set, then the
bits above them, which reach 32767.

    0 .. 127         0xxxxxxx
    128 .. 32767     1xxxxxxx  yyyyyyyy       length = x + 128 · y

Both directions work on a window of exactly two bytes, whether or not the second one is used, and
look at the size of the window before anything else. Writing is never partial: it fails before
the first byte is stored.

Reading is more liberal than writing: two bytes may also spell a length up to 127, which writing
would give one byte.
-/

namespace TunerWire.TagLength

/-- The size of the window that a length field is read from and written to. -/
def windowSize : Nat := 2

/-- The longest length that takes one byte. -/
def maxShort : Nat := 127

/-- The longest length that two bytes can express: seven low bits and eight high bits. -/
def maxLong : Nat := 32767

/-- How many bytes the field of a length takes. -/
def size (n : Int) : Except Fault Nat :=
  if n < 0 then .error (.lengthNegative n)
  else if n ≤ maxShort then .ok 1
  else if n ≤ maxLong then .ok 2
  else .error (.lengthTooLarge n)

/-- A length as it was read. -/
structure Reading where
  /-- The length. -/
  length : Nat
  /-- How many bytes of the window spell it. -/
  used : Nat
  deriving DecidableEq, Repr

/-- Read a length from a window of two bytes. -/
def read : Bytes → Except Fault Reading
  | [first, second] =>
    if first &&& 0x80 = 0 then .ok { length := first.toNat, used := 1 }
    else .ok { length := (first &&& 0x7F).toNat ||| second.toNat <<< 7, used := 2 }
  | window => .error (.windowSize window.length)

/-- A buffer after a length was written into a window of it. -/
structure Writing where
  /-- The whole buffer. -/
  buffer : Array UInt8
  /-- How many bytes of the window the length takes. -/
  used : Nat

/-- Write a length into a window of two bytes. -/
def write (n : Int) (window : Window) : Except Fault Writing :=
  if window.size ≠ windowSize then .error (.windowSize window.size)
  else
    match size n with
    | .error fault => .error fault
    | .ok used =>
      if window.access ≠ .writable then .error (.notWritable window.access)
      else
        let low := UInt8.ofNat n.toNat
        let written :=
          if used = 1 then window.set 0 low
          else (window.set 0 (0x80 ||| (low &&& 0x7F))).set 1 (UInt8.ofNat (n.toNat >>> 7))
        .ok { buffer := written.buffer, used }

/-! ### The bytes as numbers -/

/-- The fields a length takes: one byte up to 127, and two from there up to 32767. -/
theorem size_eq_ok_iff {n : Int} {k : Nat} :
    size n = .ok k ↔ (0 ≤ n ∧ n ≤ 127 ∧ k = 1) ∨ (128 ≤ n ∧ n ≤ 32767 ∧ k = 2) := by
  unfold size maxShort maxLong
  by_cases h0 : n < 0
  · rw [if_pos h0]
    constructor
    · intro h
      cases h
    · omega
  rw [if_neg h0]
  by_cases h1 : n ≤ (127 : Nat)
  · rw [if_pos h1, Except.ok.injEq]
    omega
  rw [if_neg h1]
  by_cases h2 : n ≤ (32767 : Nat)
  · rw [if_pos h2, Except.ok.injEq]
    omega
  · rw [if_neg h2]
    constructor
    · intro h
      cases h
    · omega

/-- A length has no field if it is below zero or above what two bytes can express. -/
theorem size_eq_error_iff {n : Int} {fault : Fault} :
    size n = .error fault ↔
      (n < 0 ∧ fault = .lengthNegative n) ∨ (32767 < n ∧ fault = .lengthTooLarge n) := by
  constructor
  · intro h
    rw [size, maxShort, maxLong] at h
    split at h
    · next hneg => exact .inl ⟨hneg, (Except.error.inj h).symm⟩
    split at h
    · cases h
    split at h
    · cases h
    · next hlarge => exact .inr ⟨Int.not_le.mp hlarge, (Except.error.inj h).symm⟩
  · rintro (⟨hneg, rfl⟩ | ⟨hlarge, rfl⟩)
    · rw [size, if_pos hneg]
    · rw [size, maxShort, maxLong, if_neg (by omega), if_neg (by omega), if_neg (by omega)]

theorem testBit_and_high (n i : Nat) : (n &&& 128).testBit i = (n.testBit 7 && decide (i = 7)) := by
  rw [Nat.testBit_and, show 128 = 2 ^ 7 from rfl, Nat.testBit_two_pow]
  by_cases h : i = 7
  · subst h
    rfl
  · simp [h, Ne.symm h]

theorem and_high_eq_zero_iff (b : UInt8) : b &&& 0x80 = 0 ↔ b.toNat < 128 := by
  have hb := b.toNat_lt
  rw [← UInt8.toNat_inj, UInt8.toNat_and]
  change b.toNat &&& 128 = 0 ↔ _
  constructor
  · intro h
    have h7 := testBit_and_high b.toNat 7
    rw [h, Nat.zero_testBit, decide_eq_true rfl, Bool.and_true,
      Nat.testBit_eq_decide_div_mod_eq] at h7
    have := of_decide_eq_false h7.symm
    omega
  · intro h
    apply Nat.eq_of_testBit_eq
    intro i
    rw [testBit_and_high, Nat.testBit_lt_two_pow (show b.toNat < 2 ^ 7 from h), Nat.zero_testBit,
      Bool.false_and]

theorem toNat_and_low (b : UInt8) : (b &&& 0x7F).toNat = b.toNat % 128 := by
  rw [UInt8.toNat_and]
  exact Nat.and_two_pow_sub_one_eq_mod b.toNat 7

/-- What two bytes spell: the first one alone where its high bit is clear, and else both. -/
theorem read_pair (first second : UInt8) :
    read [first, second] =
      .ok (if first.toNat < 128 then { length := first.toNat, used := 1 }
        else { length := first.toNat % 128 + 128 * second.toNat, used := 2 }) := by
  by_cases h : first.toNat < 128
  · rw [read, if_pos ((and_high_eq_zero_iff first).mpr h), if_pos h]
  · have hor : first.toNat % 128 ||| second.toNat <<< 7 =
        first.toNat % 128 + 128 * second.toNat := by
      have hlt : first.toNat % 128 < 2 ^ 7 := Nat.mod_lt _ (by decide)
      rw [Nat.shiftLeft_eq, Nat.or_comm, Nat.mul_comm, ← Nat.two_pow_add_eq_or_of_lt hlt]
      omega
    rw [read, if_neg (fun h' => h ((and_high_eq_zero_iff first).mp h')), if_neg h, toNat_and_low,
      hor]

theorem read_of_length_ne {window : Bytes} (h : window.length ≠ windowSize) :
    read window = .error (.windowSize window.length) := by
  unfold read
  split
  · exact absurd rfl h
  · rfl

theorem write_of_size_ne {n : Int} {window : Window} (h : window.size ≠ windowSize) :
    write n window = .error (.windowSize window.size) :=
  if_pos h

/-- A length is refused by a writable window of two bytes exactly when it has no field. -/
theorem write_eq_error_iff {n : Int} {window : Window} {fault : Fault}
    (hsize : window.size = windowSize) (haccess : window.access = .writable) :
    write n window = .error fault ↔ size n = .error fault := by
  rw [write, if_neg (not_not_intro hsize)]
  cases size n with
  | error fault' => simp only [Except.error.injEq]
  | ok used =>
    simp only [if_neg (not_not_intro haccess)]
    constructor <;>
    · intro h
      cases h

end TunerWire.TagLength

import TunerWire.Proofs.Burst
import TunerWire.Proofs.Period

/-!
# Pairs of bits

Two bits that are flipped, wherever they lie, are caught by the checksum. The first one leaves the
polynomial in an empty register, the bits between them are zeros and turn it over, and the second
one adds the polynomial again. So the register would only come out empty if the polynomial had
come back to itself in between (`pushBits_ne_zero_of_pair`), and that takes more zero bits than
the longest frame has (`maxSize`).
-/

namespace TunerWire

namespace Checksum

open Function

theorem pushBit_true (register : BitVec 32) :
    pushBit register true = pushZero register ^^^ polynomial := by
  have h := pushBit_xor register 0#32 false true
  rwa [BitVec.xor_zero, Bool.false_xor] at h

theorem eq_replicate_append_drop {bits : List Bool} {i : Nat} (hone : bits[i]? = some true)
    (hbefore : ∀ k < i, bits[k]? ≠ some true) :
    bits = List.replicate i false ++ true :: bits.drop (i + 1) := by
  obtain ⟨hi, hbit⟩ := List.getElem?_eq_some_iff.mp hone
  have hlength : (bits.take i).length = i := List.length_take_of_le (Nat.le_of_lt hi)
  have hzeros := take_eq_replicate_false hbefore
  rw [hlength] at hzeros
  calc
    bits = bits.take i ++ bits.drop i := (List.take_append_drop i bits).symm
    _ = List.replicate i false ++ true :: bits.drop (i + 1) := by
      rw [hzeros, List.drop_eq_getElem_cons hi, hbit]

/-- A row of bits with two ones, less than a period apart, does not leave the register empty. -/
theorem pushBits_ne_zero_of_pair {bits : List Bool} {i j : Nat} (hij : i < j)
    (hnear : j - i < period) (h : ∀ k : Nat, bits[k]? = some true ↔ k = i ∨ k = j) :
    pushBits 0#32 bits ≠ 0#32 := by
  have hfirst := eq_replicate_append_drop ((h i).mpr (Or.inl rfl)) (by
    intro k hk hone
    have := (h k).mp hone
    omega)
  have hrest (k : Nat) : (bits.drop (i + 1))[k]? = some true ↔ k = j - (i + 1) := by
    rw [List.getElem?_drop, h]
    omega
  have hsecond := eq_replicate_append_drop ((hrest _).mpr rfl) (by
    intro k hk hone
    exact absurd ((hrest k).mp hone) (Nat.ne_of_lt hk))
  have hlast : (bits.drop (i + 1)).drop (j - (i + 1) + 1) = List.replicate _ false :=
    drop_eq_replicate_false (by
      intro k hk hone
      have := (hrest k).mp hone
      omega)
  have hpolynomial : pushBit 0#32 true = polynomial := by decide
  intro hempty
  rw [hfirst, pushBits_append, pushBits_zero_replicate_false, pushBits_cons, hpolynomial, hsecond,
    pushBits_append, pushBits_replicate_false, pushBits_cons, pushBit_true, hlast] at hempty
  -- The zero bits at the end do not empty the register, so the second one has to.
  have hback := BitVec.xor_eq_zero_iff.mp (eq_zero_of_pushBits_replicate_false hempty)
  have hperiodic : IsPeriodicPt pushZero (j - (i + 1) + 1) polynomial := by
    rw [IsPeriodicPt, IsFixedPt, iterate_succ_apply', hback]
  refine not_isPeriodicPt_of_pos_of_lt_minimalPeriod (Nat.succ_ne_zero _) ?_ hperiodic
  rw [minimalPeriod_polynomial]
  omega

end Checksum

open Checksum

namespace Frame

/-- The size of the longest frame. -/
def maxSize : Nat := headerSize + maxSection + checksumSize

theorem Spells.length_le {frame : Bytes} {packet : Packet} {forms : List Form}
    (h : Spells frame packet forms) : frame.length ≤ maxSize := by
  have hsection := h.section_le
  rw [h.frame_eq, length_ofSection]
  simp only [maxSize, minSize, maxSection]
  omega

/-- Two good checksums behind frames of one length, up to `2^29 - 1` bytes: the frames do not
differ in two bits. -/
theorem ChecksumHolds.not_bit_pair {frame received : Bytes} {i j : Nat} (h : ChecksumHolds frame)
    (hlength : received.length = frame.length) (hsize : 8 * frame.length ≤ period) (hij : i ≠ j)
    (hflip : ∀ k, bitAt received k ≠ bitAt frame k ↔ k = i ∨ k = j) : ¬ ChecksumHolds received := by
  have hinside (k : Nat) (hk : k = i ∨ k = j) : k < 8 * frame.length := by
    by_contra hout
    apply (hflip k).mpr hk
    rw [bitAt_of_le (by omega), bitAt_of_le (by omega)]
  have hi := hinside i (Or.inl rfl)
  have hj := hinside j (Or.inr rfl)
  have hones (k : Nat) : (difference received frame)[k]? = some true ↔ k = i ∨ k = j :=
    (getElem?_difference_eq_some_true hlength).trans (hflip k)
  apply h.not_of_difference hlength
  rcases Nat.lt_or_gt_of_ne hij with hlt | hlt
  · exact pushBits_ne_zero_of_pair hlt (by omega) hones
  · exact pushBits_ne_zero_of_pair hlt (by omega) fun k => (hones k).trans Or.comm

end Frame

namespace Packet

open TunerWire.Frame

/-- An attribute of `n` zero bytes. -/
def zeros (n : Nat) : Attribute := { kind := 0, payload := List.replicate n 0 }

theorem length_payload_zeros (n : Nat) : (zeros n).payload.length = n := List.length_replicate

theorem fits_zeros {n : Nat} (hn : n ≤ 32767) : Fits .long (zeros n) := by
  refine ⟨Int.le_refl 0, show (0 : Int) ≤ 255 by decide, ?_⟩
  rw [length_payload_zeros]
  exact hn

/-- Two long payloads make a frame of fourteen bytes more: the header, the checksum, and three bytes
for each kind and length. -/
theorem exists_encode_length_eq {m n : Nat} (hm : 127 < m) (hm' : m ≤ 32767) (hn : 127 < n)
    (hn' : n ≤ 32767) (hsize : m + n + 6 ≤ 65535) :
    ∃ packet frame, Packet.encode packet = .ok frame ∧ frame.length = m + n + 14 := by
  have hleast {k : Nat} (hk : 127 < k) : Form.least k = .long := if_neg (Nat.not_le.mpr hk)
  have hspelling : leastSpelling [zeros m, zeros n] = [(.long, zeros m), (.long, zeros n)] := by
    simp only [leastSpelling_cons, leastSpelling_nil, length_payload_zeros, hleast hm, hleast hn]
  have hlength : (sectionBytes (leastSpelling [zeros m, zeros n])).length = m + n + 6 := by
    simp only [hspelling, sectionBytes_cons, sectionBytes_nil, List.length_append,
      length_attributeBytes, length_payload_zeros, List.length_nil, Form.width]
    omega
  have hfits : AllFit (leastSpelling [zeros m, zeros n]) := by
    rw [hspelling]
    exact allFit_cons.mpr ⟨fits_zeros hm', allFit_cons.mpr ⟨fits_zeros hn', allFit_nil⟩⟩
  have htype : (0 : Int) ≤ 0 ∧ (0 : Int) ≤ 65535 := by decide
  refine ⟨{ attributes := [zeros m, zeros n] }, _,
    encode_eq_ok_iff.mpr ⟨rfl, htype, hfits, Nat.le_trans (Nat.le_of_eq hlength) hsize, rfl⟩, ?_⟩
  rw [length_ofSection, ← leastSpelling, hlength]
  rfl

/-- **Every pair of flipped bits is caught.** Frames that are made or accepted have at most
`maxSize` bytes, and there is one of that size. A frame of up to this size with a good checksum in
which two bits are flipped, however far apart, is refused for its checksum. -/
theorem decode_of_bit_pair :
    (∀ packet frame, Packet.encode packet = .ok frame →
      minSize ≤ frame.length ∧ frame.length ≤ maxSize ∧ ChecksumHolds frame) ∧
    (∀ frame packet, Packet.decode frame = .ok packet → frame.length ≤ maxSize) ∧
    (∃ packet frame, Packet.encode packet = .ok frame ∧ frame.length = maxSize) ∧
    ∀ (frame received : Bytes) (i j : Nat), minSize ≤ frame.length → frame.length ≤ maxSize →
      ChecksumHolds frame → received.length = frame.length → i ≠ j →
      (∀ k, bitAt received k ≠ bitAt frame k ↔ k = i ∨ k = j) →
      Packet.decode received = .error (checksumFault received) := by
  refine ⟨?_, ?_, ?_, ?_⟩
  · intro packet frame h
    obtain ⟨hsize, hsum⟩ := checksumHolds_of_encode h
    exact ⟨hsize, (encode_eq_ok_iff.mp h).length_le, hsum⟩
  · intro frame packet h
    obtain ⟨forms, hforms⟩ := exists_spells_of_decode h
    exact hforms.length_le
  · exact exists_encode_length_eq (m := 32767) (n := 32762) (by decide) (by decide) (by decide)
      (by decide) (by decide)
  · intro frame received i j hmin hmax hsum hlength hij hflip
    have hsize : 8 * frame.length ≤ period := by
      simp only [maxSize, headerSize, maxSection, checksumSize] at hmax
      rw [period]
      omega
    rw [← hlength] at hmin
    exact decode_of_not_checksumHolds hmin (hsum.not_bit_pair hlength hsize hij hflip)

/-- The first bit of the header and the last bit of the checksum are flipped. -/
theorem decode_of_bit_pair_ends :
    minSize ≤ [0, 1, 0, 3, 2, 1, 255, 151, 169, 24, 115].length ∧
      [0, 1, 0, 3, 2, 1, 255, 151, 169, 24, 115].length ≤ maxSize ∧
      ChecksumHolds [0, 1, 0, 3, 2, 1, 255, 151, 169, 24, 115] ∧
      (∀ k, bitAt [1, 1, 0, 3, 2, 1, 255, 151, 169, 24, 243] k ≠
        bitAt [0, 1, 0, 3, 2, 1, 255, 151, 169, 24, 115] k ↔ k = 0 ∨ k = 87) ∧
      Packet.decode [1, 1, 0, 3, 2, 1, 255, 151, 169, 24, 243] =
        .error (.checksumMismatch 0xF318A997 0xD56FA223) := by
  have hmin : minSize ≤ [0, 1, 0, 3, 2, 1, 255, 151, 169, 24, 115].length := by decide
  have hmax : [0, 1, 0, 3, 2, 1, 255, 151, 169, 24, 115].length ≤ maxSize := by decide
  have hsum : ChecksumHolds [0, 1, 0, 3, 2, 1, 255, 151, 169, 24, 115] := by decide +kernel
  have hinside : ∀ k < 88, (bitAt [1, 1, 0, 3, 2, 1, 255, 151, 169, 24, 243] k ≠
      bitAt [0, 1, 0, 3, 2, 1, 255, 151, 169, 24, 115] k ↔ k = 0 ∨ k = 87) := by
    decide +kernel
  have hflip (k : Nat) : bitAt [1, 1, 0, 3, 2, 1, 255, 151, 169, 24, 243] k ≠
      bitAt [0, 1, 0, 3, 2, 1, 255, 151, 169, 24, 115] k ↔ k = 0 ∨ k = 87 := by
    by_cases hk : k < 88
    · exact hinside k hk
    · rw [bitAt_of_le (Nat.not_lt.mp hk), bitAt_of_le (Nat.not_lt.mp hk)]
      exact iff_of_false (fun hne => hne rfl) (by omega)
  have hdecode := decode_of_bit_pair.2.2.2 _ [1, 1, 0, 3, 2, 1, 255, 151, 169, 24, 243] 0 87 hmin
    hmax hsum rfl (by decide) hflip
  exact ⟨hmin, hmax, hsum, hflip, hdecode.trans (by decide +kernel)⟩

end Packet

end TunerWire

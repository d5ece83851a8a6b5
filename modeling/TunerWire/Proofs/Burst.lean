import TunerWire.Proofs.Encoding
import TunerWire.Proofs.Register

/-!
# Burst errors

A burst is a change of bits that lie within 32 consecutive positions. Bits are numbered through the
frame, the least significant of a byte first, which is the order in which the register takes them
in, and the checksum lies behind the frame in the same order. So a burst may begin in the section
and end in the checksum, and it is still one row of up to 32 bits for the register.

A burst leaves something in an empty register (`pushBits_ne_zero_of_burst`): the zero bits before
it do nothing, its own bits cannot cancel, and the zero bits behind it do not empty the register.
By linearity the changed frame leaves another register than the frame did, and not the residue of
a good checksum.
-/

namespace TunerWire

namespace Checksum

theorem eq_replicate_false {bits : List Bool} (h : ∀ k : Nat, bits[k]? ≠ some true) :
    bits = List.replicate bits.length false := by
  apply List.eq_replicate_of_mem
  intro bit hbit
  obtain ⟨k, hk⟩ := List.mem_iff_getElem?.mp hbit
  cases bit with
  | false => rfl
  | true => exact absurd hk (h k)

theorem take_eq_replicate_false {bits : List Bool} {n : Nat}
    (h : ∀ k < n, bits[k]? ≠ some true) :
    bits.take n = List.replicate (bits.take n).length false := by
  apply eq_replicate_false
  intro k hk
  rw [List.getElem?_take] at hk
  split at hk
  · next hlt => exact h k hlt hk
  · cases hk

theorem drop_eq_replicate_false {bits : List Bool} {n : Nat}
    (h : ∀ k, n ≤ k → bits[k]? ≠ some true) :
    bits.drop n = List.replicate (bits.drop n).length false := by
  apply eq_replicate_false
  intro k hk
  rw [List.getElem?_drop] at hk
  exact h (n + k) (Nat.le_add_right n k) hk

/-- A row of bits whose ones lie within 32 consecutive positions does not leave the register
empty. -/
theorem pushBits_ne_zero_of_burst {bits : List Bool} {start : Nat}
    (hburst : ∀ k : Nat, bits[k]? = some true → start ≤ k ∧ k < start + 32) (hone : true ∈ bits) :
    pushBits 0#32 bits ≠ 0#32 := by
  intro h
  have hbefore := take_eq_replicate_false (fun k hlt hk => Nat.not_le.mpr hlt (hburst k hk).1)
  have hafter := drop_eq_replicate_false (fun k hle hk => Nat.not_lt.mpr hle (hburst k hk).2)
  have hsplit : bits =
      bits.take start ++ ((bits.drop start).take 32 ++ bits.drop (start + 32)) := by
    rw [← List.drop_drop, List.take_append_drop, List.take_append_drop]
  rw [hsplit, pushBits_append, hbefore, pushBits_zero_replicate_false, pushBits_append, hafter] at h
  -- What is left is a row of up to 32 bits that keeps an empty register empty: it has no ones.
  have hwindow := eq_zero_of_pushBits_replicate_false h
  have hzero := getLsbD_of_pushBits_eq_zero
    (by rw [List.length_take]; exact Nat.min_le_left ..) hwindow
  obtain ⟨k, hk⟩ := List.mem_iff_getElem?.mp hone
  obtain ⟨hle, hlt⟩ := hburst k hk
  have hbit := hzero (k - start)
  rw [List.getD_eq_getElem?_getD, List.getElem?_take_of_lt (by omega), List.getElem?_drop,
    Nat.add_sub_cancel' hle, hk, BitVec.getLsbD_zero] at hbit
  cases hbit

end Checksum

open Octets Checksum

namespace Frame

theorem ChecksumHolds.pushBytes_eq {frame : Bytes} (h : ChecksumHolds frame) :
    pushBytes (BitVec.allOnes 32) frame = residue := by
  rw [h.eq_withChecksum, pushBytes_withChecksum]

/-- Two good checksums behind frames of one length: what the frames differ in leaves an empty
register empty. -/
theorem ChecksumHolds.not_of_difference {frame received : Bytes} (h : ChecksumHolds frame)
    (hlength : received.length = frame.length)
    (hne : pushBits 0#32 (difference received frame) ≠ 0#32) : ¬ ChecksumHolds received := by
  intro hreceived
  apply hne
  rw [pushBits_difference hlength (BitVec.allOnes 32), h.pushBytes_eq, hreceived.pushBytes_eq,
    BitVec.xor_self]

/-- Two good checksums behind frames of one length: the frames are the same, or they differ in
more than a burst. -/
theorem ChecksumHolds.not_burst {frame received : Bytes} {start : Nat} (h : ChecksumHolds frame)
    (hlength : received.length = frame.length) (hne : received ≠ frame)
    (hburst : ∀ k, bitAt received k ≠ bitAt frame k → start ≤ k ∧ k < start + 32) :
    ¬ ChecksumHolds received := by
  have hones (k : Nat) (hk : (difference received frame)[k]? = some true) :
      start ≤ k ∧ k < start + 32 :=
    hburst k ((getElem?_difference_eq_some_true hlength).mp hk)
  exact h.not_of_difference hlength
    (pushBits_ne_zero_of_burst hones (true_mem_difference hlength hne))

end Frame

namespace Packet

open TunerWire.Frame

theorem checksumHolds_of_encode {packet : Packet} {frame : Bytes}
    (h : packet.encode = .ok frame) : minSize ≤ frame.length ∧ ChecksumHolds frame := by
  rw [(encode_eq_ok_iff.mp h).frame_eq]
  constructor
  · rw [length_ofSection]
    exact Nat.le_add_left ..
  · exact checksumHolds_withChecksum _

/-- **Every burst of up to 32 bits is caught.** Encoding gives frames with a good checksum. A
frame with a good checksum that is changed in some bits, all of them within 32 consecutive
positions, is refused for its checksum. -/
theorem decode_of_burst :
    (∀ packet frame, Packet.encode packet = .ok frame →
      minSize ≤ frame.length ∧ ChecksumHolds frame) ∧
    ∀ (frame received : Bytes) (start : Nat), minSize ≤ frame.length → ChecksumHolds frame →
      received.length = frame.length → received ≠ frame →
      (∀ k, bitAt received k ≠ bitAt frame k → start ≤ k ∧ k < start + 32) →
      Packet.decode received = .error (checksumFault received) := by
  refine ⟨fun _ _ => checksumHolds_of_encode, ?_⟩
  intro frame received start hsize hsum hlength hne hburst
  rw [← hlength] at hsize
  exact decode_of_not_checksumHolds hsize (hsum.not_burst hlength hne hburst)

/-- A burst of 32 bits that begins in the last byte of the section and ends in the checksum. -/
theorem decode_of_burst_across_border :
    minSize ≤ [0, 1, 0, 3, 2, 1, 255, 151, 169, 24, 115].length ∧
      ChecksumHolds [0, 1, 0, 3, 2, 1, 255, 151, 169, 24, 115] ∧
      (∀ k, bitAt [0, 1, 0, 3, 2, 1, 254, 150, 169, 152, 115] k ≠
        bitAt [0, 1, 0, 3, 2, 1, 255, 151, 169, 24, 115] k → 48 ≤ k ∧ k < 80) ∧
      Packet.decode [0, 1, 0, 3, 2, 1, 254, 150, 169, 152, 115] =
        .error (.checksumMismatch 0x7398A996 0x041F9901) := by
  have hsize : minSize ≤ [0, 1, 0, 3, 2, 1, 255, 151, 169, 24, 115].length := by decide
  have hsum : ChecksumHolds [0, 1, 0, 3, 2, 1, 255, 151, 169, 24, 115] := by decide +kernel
  have hinside : ∀ k < 88, bitAt [0, 1, 0, 3, 2, 1, 254, 150, 169, 152, 115] k ≠
      bitAt [0, 1, 0, 3, 2, 1, 255, 151, 169, 24, 115] k → 48 ≤ k ∧ k < 80 := by
    decide +kernel
  have hburst (k : Nat) (h : bitAt [0, 1, 0, 3, 2, 1, 254, 150, 169, 152, 115] k ≠
      bitAt [0, 1, 0, 3, 2, 1, 255, 151, 169, 24, 115] k) : 48 ≤ k ∧ k < 80 := by
    by_cases hk : k < 88
    · exact hinside k hk h
    · rw [bitAt_of_le (Nat.not_lt.mp hk), bitAt_of_le (Nat.not_lt.mp hk)] at h
      exact absurd rfl h
  have hdecode := decode_of_burst.2 _ [0, 1, 0, 3, 2, 1, 254, 150, 169, 152, 115] 48 hsize hsum rfl
    (by decide) hburst
  exact ⟨hsize, hsum, hburst, hdecode.trans (by decide +kernel)⟩

/-- A change within four consecutive bytes is caught, wherever they lie. -/
theorem decode_of_four_bytes {frame received : Bytes} {index : Nat}
    (hsize : minSize ≤ frame.length) (hsum : ChecksumHolds frame)
    (hlength : received.length = frame.length) (hne : received ≠ frame)
    (hbytes : ∀ i : Nat, received[i]? ≠ frame[i]? → index ≤ i ∧ i < index + 4) :
    Packet.decode received = .error (checksumFault received) := by
  have hburst (k : Nat) (hk : bitAt received k ≠ bitAt frame k) :
      8 * index ≤ k ∧ k < 8 * index + 32 := by
    have hbyte := hbytes (k / 8) (by
      intro h
      rw [bitAt, bitAt, List.getD_eq_getElem?_getD, List.getD_eq_getElem?_getD, h] at hk
      exact hk rfl)
    omega
  rw [← hlength] at hsize
  exact decode_of_not_checksumHolds hsize (hsum.not_burst hlength hne hburst)

end Packet

end TunerWire

import TunerWire.Proofs.Burst
import TunerWire.Proofs.Refusal

/-!
# The checksum of a whole frame

Decoding compares the checksum that a frame carries with the one that is computed from the bytes
before it. The same can be told from one checksum over the whole frame, the trailer included: it is
the same number for every good frame, and another one for every bad frame
(`crc32_eq_iff_checksumHolds`). That good frames share it is what the `residue` of the register
says. That no bad frame has it needs more: from any register, four bytes can be told by what they
leave in it (`eq_of_pushBytes_eq`), so only one trailer leaves the residue.
-/

namespace TunerWire

namespace Checksum

/-- From any register, messages of one length up to four bytes leave the same only if they are the
same. -/
theorem eq_of_pushBytes_eq {register : BitVec 32} {a b : Bytes} (hlength : a.length = b.length)
    (hsmall : a.length ≤ 4) (h : pushBytes register a = pushBytes register b) : a = b := by
  by_contra hne
  -- All bits in which the two can differ lie within one burst.
  have hburst (k : Nat) (hk : (difference a b)[k]? = some true) : 0 ≤ k ∧ k < 0 + 32 := by
    refine ⟨Nat.zero_le k, ?_⟩
    by_contra hlarge
    have hbit := (getElem?_difference_eq_some_true hlength).mp hk
    rw [bitAt_of_le (by omega), bitAt_of_le (by omega)] at hbit
    exact hbit rfl
  apply pushBits_ne_zero_of_burst hburst (true_mem_difference hlength hne)
  rw [pushBits_difference hlength register, h, BitVec.xor_self]

/-- The checksum of a message with its own checksum behind it. -/
def ofClosed : BitVec 32 := 0x2144DF1C#32

theorem crc32_eq_ofClosed_iff (message : Bytes) :
    crc32 message = ofClosed ↔ pushBytes (BitVec.allOnes 32) message = residue := by
  have hresidue : ~~~ ofClosed = residue := by decide
  rw [crc32, BitVec.not_eq_comm, hresidue, eq_comm]

end Checksum

open Octets Checksum

namespace Frame

theorem crc32_eq_iff_checksumHolds {frame : Bytes} (hsize : checksumSize ≤ frame.length) :
    crc32 frame = ofClosed ↔ ChecksumHolds frame := by
  rw [crc32_eq_ofClosed_iff]
  constructor
  · intro h
    -- The trailer and the checksum of the bytes before it leave the same in the same register.
    have hgood := pushBytes_withChecksum (frame.take (frame.length - checksumSize))
    rw [withChecksum, pushBytes_append] at hgood
    rw [← List.take_append_drop (frame.length - checksumSize) frame, pushBytes_append] at h
    refine eq_of_pushBytes_eq ?_ ?_ (h.trans hgood.symm)
    · rw [List.length_drop, length_littleEndian]
      omega
    · rw [List.length_drop]
      exact Nat.le_of_eq (Nat.sub_sub_self hsize)
  · exact fun h => h.pushBytes_eq

end Frame

namespace Packet

open TunerWire.Frame

theorem exists_invalidChecksum_iff {frame : Bytes} (hsize : minSize ≤ frame.length) :
    (∃ fault, Packet.decode frame = .error fault ∧ fault.errorClass = .invalidChecksum) ↔
      ¬ ChecksumHolds frame := by
  constructor
  · rintro ⟨fault, h, hclass⟩ hsum
    have hrefusal := refusal_of_decode h
    rw [hclass] at hrefusal
    cases hrefusal with
    | checksum _ hne =>
      exact hne ((ofLittleEndian_eq_crc32_iff (Nat.le_trans (by decide) hsize)).mpr hsum)
  · intro h
    exact ⟨_, decode_of_not_checksumHolds hsize h, rfl⟩

/-- **The checksum is good exactly when that of the whole frame is one number.** A byte string with
room for a header and a checksum is refused for its checksum if and only if its own checksum, the
trailer included, is not `0x2144DF1C`. Every frame that is encoded has this checksum. -/
theorem decode_checksum_iff :
    (∀ frame : Bytes, 8 ≤ frame.length →
      ((∃ fault, Packet.decode frame = .error fault ∧ fault.errorClass = .invalidChecksum) ↔
        crc32 frame ≠ 0x2144DF1C#32)) ∧
    ∀ packet frame, Packet.encode packet = .ok frame → crc32 frame = 0x2144DF1C#32 := by
  have hlarge {frame : Bytes} (hsize : 8 ≤ frame.length) : checksumSize ≤ frame.length :=
    Nat.le_trans (by decide) hsize
  constructor
  · intro frame hsize
    rw [exists_invalidChecksum_iff hsize]
    exact not_congr (crc32_eq_iff_checksumHolds (hlarge hsize)).symm
  · intro packet frame h
    obtain ⟨hsize, hsum⟩ := checksumHolds_of_encode h
    exact (crc32_eq_iff_checksumHolds (hlarge hsize)).mpr hsum

/-- The checksum of the first frame stands behind it with its most significant byte first, and the
frame is refused. With the least significant byte first it is the frame of a packet. -/
theorem decode_checksum_iff_byte_order :
    (8 ≤ [0, 1, 0, 3, 2, 1, 255, 115, 24, 169, 151].length ∧
      ∃ fault, Packet.decode [0, 1, 0, 3, 2, 1, 255, 115, 24, 169, 151] = .error fault ∧
        fault.errorClass = .invalidChecksum) ∧
    Packet.encode { type := 1, attributes := [{ kind := 2, payload := [255] }] } =
        .ok [0, 1, 0, 3, 2, 1, 255, 151, 169, 24, 115] ∧
      crc32 [0, 1, 0, 3, 2, 1, 255, 151, 169, 24, 115] = 0x2144DF1C#32 := by
  have hsize : 8 ≤ [0, 1, 0, 3, 2, 1, 255, 115, 24, 169, 151].length := by decide
  have hencode : Packet.encode { type := 1, attributes := [{ kind := 2, payload := [255] }] } =
      .ok [0, 1, 0, 3, 2, 1, 255, 151, 169, 24, 115] := by
    decide +kernel
  exact ⟨⟨hsize, (decode_checksum_iff.1 _ hsize).mpr (by decide +kernel)⟩, hencode,
    decode_checksum_iff.2 _ _ hencode⟩

end Packet

end TunerWire

import TunerWire.Proofs.Decoding

/-!
# The stages of decoding

What decoding looks at in a frame, part by part: the checksum that the frame carries and the one
that its bytes have, the section length that its header declares, the section between header and
checksum. Each stage compares two of them, and is a lemma here that says where the frame is refused
and where decoding goes on. Once all stages are passed, what is left to do is to read the section
(`decode_of_declared_eq`).
-/

namespace TunerWire

open Octets

namespace Frame

/-- The last four bytes of a frame, which hold its checksum. -/
def trailer (frame : Bytes) : Bytes := frame.drop (frame.length - checksumSize)

/-- The checksum that a frame carries. -/
def carriedChecksum (frame : Bytes) : Nat := ofLittleEndian (trailer frame)

/-- The checksum of all bytes before the last four. -/
def computedChecksum (frame : Bytes) : Nat :=
  (Checksum.crc32 (frame.take (frame.length - checksumSize))).toNat

/-- Bytes 2 and 3, where the header holds the length of the section. -/
def sectionField (frame : Bytes) : Bytes := (frame.drop 2).take 2

/-- The length of the section that the header declares. -/
def declaredSection (frame : Bytes) : Nat := ofBigEndian (sectionField frame)

/-- The bytes between the header and the checksum. -/
def sectionOf (frame : Bytes) : Bytes :=
  (frame.take (frame.length - checksumSize)).drop headerSize

theorem length_trailer {frame : Bytes} (hsize : minSize ≤ frame.length) :
    (trailer frame).length = checksumSize := by
  rw [minSize] at hsize
  rw [trailer, List.length_drop]
  omega

theorem length_sectionOf (frame : Bytes) :
    (sectionOf frame).length = frame.length - minSize := by
  rw [sectionOf, List.length_drop, List.length_take, minSize]
  omega

theorem windowSize_le_length_trailer {frame : Bytes} (hsize : minSize ≤ frame.length) :
    TagLength.windowSize ≤ (trailer frame).length := by
  rw [length_trailer hsize]
  decide

theorem take_two_take {frame : Bytes} (hsize : minSize ≤ frame.length) :
    (frame.take (frame.length - checksumSize)).take 2 = frame.take 2 := by
  rw [minSize, headerSize] at hsize
  rw [List.take_take, Nat.min_eq_left (by omega)]

theorem sectionField_take {frame : Bytes} (hsize : minSize ≤ frame.length) :
    sectionField (frame.take (frame.length - checksumSize)) = sectionField frame := by
  rw [minSize, headerSize] at hsize
  rw [sectionField, List.drop_take, List.take_take, Nat.min_eq_left (by omega), sectionField]

end Frame

namespace Packet

open TunerWire.Frame

theorem decode_of_carried_ne {frame : Bytes} (hsize : minSize ≤ frame.length)
    (h : carriedChecksum frame ≠ computedChecksum frame) :
    Packet.decode frame =
      .error (.checksumMismatch (carriedChecksum frame) (computedChecksum frame)) :=
  decode_of_not_checksumHolds hsize
    (mt (ofLittleEndian_eq_crc32_iff (Nat.le_trans (by decide) hsize)).mpr h)

/-- Behind a good checksum, the declared length of the section is compared with its size. -/
theorem decode_of_carried_eq {frame : Bytes} (hsize : minSize ≤ frame.length)
    (hsum : carriedChecksum frame = computedChecksum frame) :
    Packet.decode frame =
      if declaredSection frame ≠ frame.length - minSize then
        .error (.sectionMismatch (declaredSection frame) (frame.length - minSize))
      else
        (readAttributes (trailer frame) [] (sectionOf frame)).map fun attributes =>
          { type := ofBigEndian (frame.take 2), attributes } := by
  have hfield : ofBigEndian (((frame.take (frame.length - checksumSize)).drop 2).take 2) =
      declaredSection frame :=
    congrArg ofBigEndian (sectionField_take hsize)
  rw [carriedChecksum, computedChecksum, trailer] at hsum
  simp only [Packet.decode]
  rw [if_neg (Nat.not_lt.mpr hsize), if_neg (not_not_intro hsum), hfield, take_two_take hsize,
    ← trailer, ← sectionOf]
  cases readAttributes (trailer frame) [] (sectionOf frame) <;> rfl

theorem decode_of_declared_ne {frame : Bytes} (hsize : minSize ≤ frame.length)
    (hsum : carriedChecksum frame = computedChecksum frame)
    (h : declaredSection frame ≠ frame.length - minSize) :
    Packet.decode frame =
      .error (.sectionMismatch (declaredSection frame) (frame.length - minSize)) := by
  rw [decode_of_carried_eq hsize hsum, if_pos h]

/-- Where the declared length is that of the section, the section is read. -/
theorem decode_of_declared_eq {frame : Bytes} (hsize : minSize ≤ frame.length)
    (hsum : carriedChecksum frame = computedChecksum frame)
    (h : declaredSection frame = frame.length - minSize) :
    Packet.decode frame =
      (readAttributes (trailer frame) [] (sectionOf frame)).map fun attributes =>
        { type := ofBigEndian (frame.take 2), attributes } := by
  rw [decode_of_carried_eq hsize hsum, if_neg (not_not_intro h)]

end Packet

end TunerWire

import Mathlib.Tactic.ByContra
import TunerWire.Proofs.Incomplete
import TunerWire.Proofs.Position

/-!
# Refused frames

Every outcome of decoding. A frame can have several defects at once, and it is refused for the one
that comes first in this order: it is too short, it carries another checksum than that of its bytes,
its header declares another section length than it has, an attribute of the section is not complete
(`Refusal`). A frame that has none of these is decoded (`exists_decode_iff`), and no other failure
comes in between, not even a look-up outside of the frame (`decode_outcome`).
-/

namespace TunerWire

open TunerWire.Frame

/-- What a frame is refused for, with the class of the fault: the first of its defects. -/
inductive Refusal (frame : Bytes) : Fault → ErrorClass → Prop where
  /-- There is no room for a header and a checksum. -/
  | size (hsize : frame.length < 8) : Refusal frame (.frameTooShort frame.length) .truncatedInput
  /-- The checksum is not that of the bytes before it, whatever these are. -/
  | checksum (hsize : 8 ≤ frame.length) (hsum : carriedChecksum frame ≠ computedChecksum frame) :
      Refusal frame (.checksumMismatch (carriedChecksum frame) (computedChecksum frame))
        .invalidChecksum
  /-- The checksum is good, and the header declares another section length. -/
  | sectionLength (hsize : 8 ≤ frame.length)
      (hsum : carriedChecksum frame = computedChecksum frame)
      (hsection : declaredSection frame ≠ frame.length - 8) :
      Refusal frame (.sectionMismatch (declaredSection frame) (frame.length - 8)) .truncatedInput
  /-- The section has the declared length, and an attribute of it is not complete. The first such
  attribute is reported: its kind, the length that is read for it, and how many bytes of the section
  stand behind that length. -/
  | incomplete (hsize : 8 ≤ frame.length)
      (hsum : carriedChecksum frame = computedChecksum frame)
      (hsection : declaredSection frame = frame.length - 8) {kind : UInt8} {remaining : Bytes}
      (hfirst : FirstIncomplete (sectionOf frame) kind remaining) {tag : TagLength.Reading}
      (htag : TagLength.read (lengthWindow (trailer frame) remaining) = .ok tag) :
      Refusal frame (.attributeOverrun kind tag.length (behindLength remaining).length)
        .truncatedInput

theorem Refusal.errorClass_eq {frame : Bytes} {fault : Fault} {errorClass : ErrorClass}
    (h : Refusal frame fault errorClass) :
    errorClass = .truncatedInput ∨ errorClass = .invalidChecksum := by
  cases h with
  | checksum => exact .inr rfl
  | size | sectionLength | incomplete => exact .inl rfl

namespace Packet

theorem decode_eq_error_iff_of_declared {frame : Bytes} {fault : Fault}
    (hsize : minSize ≤ frame.length) (hsum : carriedChecksum frame = computedChecksum frame)
    (hsection : declaredSection frame = frame.length - minSize) :
    Packet.decode frame = .error fault ↔
      ∃ kind remaining, FirstIncomplete (sectionOf frame) kind remaining ∧
        Overruns (trailer frame) kind remaining fault := by
  rw [decode_of_declared_eq hsize hsum hsection, map_eq_error_iff,
    readAttributes_eq_error_iff (windowSize_le_length_trailer hsize) []]

/-- What a refused frame is refused for is a defect that it has, and no defect comes before it. -/
theorem refusal_of_decode {frame : Bytes} {fault : Fault}
    (h : Packet.decode frame = .error fault) : Refusal frame fault fault.errorClass := by
  by_cases hsize : minSize ≤ frame.length
  · by_cases hsum : carriedChecksum frame = computedChecksum frame
    · by_cases hsection : declaredSection frame = frame.length - minSize
      · obtain ⟨kind, remaining, hfirst, tag, htag, rfl⟩ :=
          (decode_eq_error_iff_of_declared hsize hsum hsection).mp h
        exact .incomplete hsize hsum hsection hfirst htag
      · rw [decode_of_declared_ne hsize hsum hsection] at h
        obtain rfl := Except.error.inj h
        exact .sectionLength hsize hsum hsection
    · rw [decode_of_carried_ne hsize hsum] at h
      obtain rfl := Except.error.inj h
      exact .checksum hsize hsum
  · have hsmall := Nat.lt_of_not_le hsize
    rw [decode_of_length_lt hsmall] at h
    obtain rfl := Except.error.inj h
    exact .size hsmall

theorem errorClass_of_decode {frame : Bytes} {fault : Fault}
    (h : Packet.decode frame = .error fault) :
    fault.errorClass = .truncatedInput ∨ fault.errorClass = .invalidChecksum :=
  (refusal_of_decode h).errorClass_eq

/-- A frame with a defect is refused for it, if no defect comes before it. -/
theorem decode_of_refusal {frame : Bytes} {fault : Fault} {errorClass : ErrorClass}
    (h : Refusal frame fault errorClass) : Packet.decode frame = .error fault := by
  cases h with
  | size hsize => exact decode_of_length_lt hsize
  | checksum hsize hsum => exact decode_of_carried_ne hsize hsum
  | sectionLength hsize hsum hsection => exact decode_of_declared_ne hsize hsum hsection
  | incomplete hsize hsum hsection hfirst htag =>
    exact (decode_eq_error_iff_of_declared hsize hsum hsection).mpr
      ⟨_, _, hfirst, _, htag, rfl⟩

theorem exists_decode_iff {frame : Bytes} :
    (∃ packet, Packet.decode frame = .ok packet) ↔
      8 ≤ frame.length ∧ carriedChecksum frame = computedChecksum frame ∧
        declaredSection frame = frame.length - 8 ∧
        ¬ ∃ kind remaining, FirstIncomplete (sectionOf frame) kind remaining := by
  constructor
  · rintro ⟨packet, h⟩
    have hno (fault : Fault) (errorClass : ErrorClass) : ¬ Refusal frame fault errorClass := by
      intro hrefusal
      cases (decode_of_refusal hrefusal).symm.trans h
    have hsize : 8 ≤ frame.length := by
      by_contra hsmall
      exact hno _ _ (.size (Nat.lt_of_not_le hsmall))
    have hsum : carriedChecksum frame = computedChecksum frame := by
      by_contra hne
      exact hno _ _ (.checksum hsize hne)
    have hsection : declaredSection frame = frame.length - 8 := by
      by_contra hne
      exact hno _ _ (.sectionLength hsize hsum hne)
    refine ⟨hsize, hsum, hsection, ?_⟩
    rintro ⟨kind, remaining, hfirst⟩
    obtain ⟨tag, htag⟩ :=
      exists_read_lengthWindow (windowSize_le_length_trailer hsize) remaining
    exact hno _ _ (.incomplete hsize hsum hsection hfirst htag)
  · rintro ⟨hsize, hsum, hsection, hcomplete⟩
    obtain ⟨attributes, hread⟩ :=
      (exists_readAttributes_iff (windowSize_le_length_trailer hsize) []).mpr hcomplete
    rw [decode_of_declared_eq hsize hsum hsection, hread]
    exact ⟨_, rfl⟩

/-- **Every outcome of decoding.** A frame is refused for the first of its defects, and for nothing
else: the faults are those of a truncated frame and of a bad checksum. A frame without defects is
decoded. Decoding by position has the same outcome, so no position is outside of the frame. -/
theorem decode_outcome (frame : Bytes) :
    (∀ fault, Packet.decode frame = .error fault ↔ Refusal frame fault fault.errorClass) ∧
      (∀ fault, Packet.decode frame = .error fault →
        fault.errorClass = .truncatedInput ∨ fault.errorClass = .invalidChecksum) ∧
      ((∃ packet, Packet.decode frame = .ok packet) ↔
        8 ≤ frame.length ∧ carriedChecksum frame = computedChecksum frame ∧
          declaredSection frame = frame.length - 8 ∧
          ¬ ∃ kind remaining, FirstIncomplete (sectionOf frame) kind remaining) ∧
      Packet.decodeAt frame = (Packet.decode frame).mapError .fault :=
  ⟨fun _ => ⟨refusal_of_decode, decode_of_refusal⟩, fun _ => errorClass_of_decode,
    exists_decode_iff, decodeAt_eq frame⟩

/-- The length of the second attribute begins with the last byte of the section and ends in the
checksum, so nothing of the section stands behind it. -/
theorem decode_outcome_across_border :
    Packet.decode [0, 1, 0, 5, 3, 1, 170, 9, 133, 102, 140, 141, 29] =
        .error (.attributeOverrun 9 13061 0) ∧
      Refusal [0, 1, 0, 5, 3, 1, 170, 9, 133, 102, 140, 141, 29] (.attributeOverrun 9 13061 0)
        .truncatedInput ∧
      ((Fault.attributeOverrun 9 13061 0).errorClass = .truncatedInput ∨
        (Fault.attributeOverrun 9 13061 0).errorClass = .invalidChecksum) ∧
      Packet.decodeAt [0, 1, 0, 5, 3, 1, 170, 9, 133, 102, 140, 141, 29] =
        .error (.fault (.attributeOverrun 9 13061 0)) := by
  have h : Packet.decode [0, 1, 0, 5, 3, 1, 170, 9, 133, 102, 140, 141, 29] =
      .error (.attributeOverrun 9 13061 0) := by
    decide +kernel
  obtain ⟨hrefusal, hclass, -, hposition⟩ :=
    decode_outcome [0, 1, 0, 5, 3, 1, 170, 9, 133, 102, 140, 141, 29]
  rw [h] at hposition
  exact ⟨h, (hrefusal _).mp h, hclass _ h, hposition⟩

end Packet

end TunerWire

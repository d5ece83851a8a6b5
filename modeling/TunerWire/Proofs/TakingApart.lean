import TunerWire.Proofs.Exchange

/-!
# What taking a frame apart answers

The text of a frame may be written in many ways: in either case, with blanks wherever a pair of
digits ends. Taking it apart looks at nothing but the bytes that it spells, so all texts of the same
bytes have the same answer: what is said of the packet, or a report on the fault of the bytes. Where
a text spells no bytes, one position of it is wrong (`Hex.Offends`), and the answer is a report on
that position (`parseFrame_answer`).
-/

namespace TunerWire

open Text

namespace Workbench

section Parse

variable {text : String} {bytes : Bytes}

theorem parseFrame_of_packet {packet : Packet} (hspells : Hex.Spells text.toList bytes)
    (h : Packet.decode bytes = .ok packet) :
    parseFrame text = .ok (.result (.of bytes packet)) :=
  parseFrame_eq_result_iff.mpr ⟨bytes, packet, hspells, h, rfl⟩

theorem parseFrame_of_fault {fault : Fault} (hspells : Hex.Spells text.toList bytes)
    (h : Packet.decode bytes = .error fault) :
    parseFrame text = .ok (.report fault.errorClass fault.message) := by
  refine reporting_eq_report (bind_eq_error_iff.mpr (.inr ⟨bytes, ?_, ?_⟩)) (reported_of_decode h)
  · exact bytesOf_eq_ok_iff.mpr hspells
  · exact bind_eq_error_iff.mpr (.inl (ofCodec_eq_error_iff.mpr ⟨fault, h, rfl⟩))

theorem parseFrame_of_offends {position : Nat} (h : Hex.Offends text.toList position) :
    parseFrame text = .ok (.report .value (Failure.hexText position).message) := by
  have hbytes : bytesOf text = .error (.hexText position) :=
    mapError_eq_error_iff.mpr ⟨position, Hex.read_eq_error_iff.mpr h, rfl⟩
  exact reporting_eq_report (bind_eq_error_iff.mpr (.inl hbytes)) rfl

/-- Two texts of the same bytes have the same answer. -/
theorem parseFrame_congr {other : String} (hspells : Hex.Spells text.toList bytes)
    (hother : Hex.Spells other.toList bytes) : parseFrame other = parseFrame text := by
  cases h : Packet.decode bytes with
  | ok packet => rw [parseFrame_of_packet hspells h, parseFrame_of_packet hother h]
  | error fault => rw [parseFrame_of_fault hspells h, parseFrame_of_fault hother h]

end Parse

/-- **What taking a frame apart answers.** A text that spells bytes is answered with what these
bytes decode to: the packet, with the last four bytes and the number of bytes beside it, or a report
on the fault. Every other text that spells the same bytes has the same answer. A text that spells no
bytes has one position that is wrong, and the answer is a report on it. -/
theorem parseFrame_answer (text : String) :
    (∀ bytes, Hex.Spells text.toList bytes →
      (∀ packet, Packet.decode bytes = .ok packet →
        (parseFrame text).map (Answer.toJson ParsedFrame.toJson) =
          .ok (.object
            [("type", .int packet.type),
             ("attributes", .list (packet.attributes.map fun a =>
               .object [("kind", .int a.kind), ("payload", .ofChars (Hex.plain a.payload))])),
             ("checksum", .ofChars (Hex.plain (bytes.drop (bytes.length - 4)))),
             ("length", .int bytes.length)])) ∧
      (∀ fault, Packet.decode bytes = .error fault →
        (parseFrame text).map (Answer.toJson ParsedFrame.toJson) =
          .ok (.object [("error", .string fault.message),
            ("error_type", .string fault.errorClass.name)])) ∧
      ∀ other, Hex.Spells other.toList bytes → parseFrame other = parseFrame text) ∧
    ((∃ position, Hex.Offends text.toList position) ↔
      ¬ ∃ bytes, Hex.Spells text.toList bytes) ∧
    ∀ position, Hex.Offends text.toList position →
      (∀ position', Hex.Offends text.toList position' → position' = position) ∧
      (parseFrame text).map (Answer.toJson ParsedFrame.toJson) =
        .ok (.object
          [("error", .string
             ("non-hexadecimal number found in fromhex() arg at position " ++ decimal position)),
           ("error_type", .string "ValueError")]) := by
  refine ⟨fun bytes hspells => ⟨?_, ?_, ?_⟩, ?_, fun position hposition => ⟨?_, ?_⟩⟩
  · intro packet h
    rw [parseFrame_of_packet hspells h]
    rfl
  · intro fault h
    rw [parseFrame_of_fault hspells h]
    rfl
  · exact fun _ => parseFrame_congr hspells
  · exact Hex.exists_offends_iff
  · exact fun _ hposition' => hposition'.unique hposition
  · rw [parseFrame_of_offends hposition]
    rfl

/-- A frame in two ways of writing, bytes that are no frame, a text with a letter that is no digit
before one beyond ASCII, and a text that ends within a pair. -/
theorem parseFrame_answer_each_outcome :
    ((parseFrame "0001 0006 038100AA\n0400 31bfb02d").map (Answer.toJson ParsedFrame.toJson) =
        .ok (.object
          [("type", .int 1),
           ("attributes", .list
             [.object [("kind", .int 3), ("payload", .string "aa")],
              .object [("kind", .int 4), ("payload", .string "")]]),
           ("checksum", .string "31bfb02d"), ("length", .int 14)]) ∧
      parseFrame " 00010006038100aa040031BFB02D\t" =
        parseFrame "0001 0006 038100AA\n0400 31bfb02d") ∧
    (parseFrame " 0a").map (Answer.toJson ParsedFrame.toJson) =
      .ok (.object [("error", .string "Frame must be at least 8 bytes, got 1"),
        ("error_type", .string "TruncatedInputError")]) ∧
    (parseFrame "0g é").map (Answer.toJson ParsedFrame.toJson) =
      .ok (.object
        [("error", .string "non-hexadecimal number found in fromhex() arg at position 3"),
         ("error_type", .string "ValueError")]) ∧
    (parseFrame "00 0").map (Answer.toJson ParsedFrame.toJson) =
      .ok (.object
        [("error", .string "non-hexadecimal number found in fromhex() arg at position 4"),
         ("error_type", .string "ValueError")]) := by
  have hspells : Hex.Spells "0001 0006 038100AA\n0400 31bfb02d".toList
      [0, 1, 0, 6, 3, 129, 0, 170, 4, 0, 49, 191, 176, 45] :=
    Hex.read_eq_ok_iff.mp (by decide +kernel)
  obtain ⟨hpacket, -, hother⟩ := (parseFrame_answer _).1 _ hspells
  refine ⟨⟨?_, ?_⟩, ?_, ?_, ?_⟩
  · exact hpacket { type := 1, attributes := [{ kind := 3, payload := [170] }, { kind := 4 }] }
      (by decide +kernel)
  · exact hother _ (Hex.read_eq_ok_iff.mp (by decide +kernel))
  · have hshort : Hex.Spells " 0a".toList [10] := Hex.read_eq_ok_iff.mp (by decide +kernel)
    have hmessage : (Fault.frameTooShort 1).message = "Frame must be at least 8 bytes, got 1" := by
      decide +kernel
    rw [((parseFrame_answer _).1 _ hshort).2.1 (.frameTooShort 1) (by decide +kernel), hmessage]
    rfl
  · have hoffends : Hex.Offends "0g é".toList 3 := Hex.read_eq_error_iff.mp (by decide +kernel)
    have hposition : decimal (3 : Nat) = "3" := by decide +kernel
    rw [((parseFrame_answer _).2.2 3 hoffends).2, hposition]
    rfl
  · have hoffends : Hex.Offends "00 0".toList 4 := Hex.read_eq_error_iff.mp (by decide +kernel)
    have hposition : decimal (4 : Nat) = "4" := by decide +kernel
    rw [((parseFrame_answer _).2.2 4 hoffends).2, hposition]
    rfl

end Workbench

end TunerWire

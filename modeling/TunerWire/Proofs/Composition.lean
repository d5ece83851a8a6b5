import TunerWire.Proofs.Incomplete
import TunerWire.Proofs.Decoding
import TunerWire.Proofs.Outcome

/-!
# Sections in pieces

The frame around a section of two pieces, the first of which is a section in its own right: it is
decoded to the attributes of the first piece and then those of the second, or it is refused for the
attribute for which the second piece alone would be refused. The three frames have different
lengths and different checksums, so this needs that reading an attribute looks neither at where the
attribute stands (`readAttributes_append`) nor at the trailer (`readAttributes_trailers`).
-/

namespace TunerWire.Packet

open TunerWire.Frame

theorem exists_trailer_decode_ofSection {type : Nat} {body : Bytes} (htype : type ≤ 65535)
    (hbody : body.length ≤ 65535) :
    ∃ trailer, TagLength.windowSize ≤ trailer.length ∧ Packet.decode (ofSection type body) =
      (readAttributes trailer [] body).map fun attributes => { type := type, attributes } :=
  ⟨_, windowSize_le_length_crc32 (header type body.length ++ body), decode_ofSection htype hbody⟩

/-- **Decoding goes over a section piece by piece.** Where the frame around the first piece is
decoded, the frame around both is decoded exactly when the frame around the second one is, to the
attributes of both in order. If they are refused, then both for a truncated section, with the same
kind and the same count of bytes that remain. -/
theorem decode_ofSection_append {type : Nat} {front rest : Bytes} {packet : Packet}
    (htype : type ≤ 65535) (hlength : front.length + rest.length ≤ 65535)
    (h : Packet.decode (ofSection type front) = .ok packet) :
    ((∃ whole, Packet.decode (ofSection type (front ++ rest)) = .ok whole) ↔
        ∃ tail, Packet.decode (ofSection type rest) = .ok tail) ∧
      (∀ whole tail, Packet.decode (ofSection type (front ++ rest)) = .ok whole →
        Packet.decode (ofSection type rest) = .ok tail →
        whole = { type, attributes := packet.attributes ++ tail.attributes }) ∧
      ∀ fault, Packet.decode (ofSection type (front ++ rest)) = .error fault →
        ∃ fault', Packet.decode (ofSection type rest) = .error fault' ∧
          SameOverrun fault fault' ∧ fault.errorClass = .truncatedInput ∧
          fault'.errorClass = .truncatedInput := by
  rw [← List.length_append] at hlength
  have hshort : front.length ≤ 65535 ∧ rest.length ≤ 65535 := by
    rw [List.length_append] at hlength
    omega
  obtain ⟨trailer₁, htrailer₁, hdecode₁⟩ := exists_trailer_decode_ofSection htype hshort.1
  obtain ⟨trailer₂, htrailer₂, hdecode₂⟩ := exists_trailer_decode_ofSection htype hshort.2
  obtain ⟨trailer, htrailer, hdecode⟩ := exists_trailer_decode_ofSection htype hlength
  rw [hdecode₁] at h
  obtain ⟨attributes, hfront, rfl⟩ := map_eq_ok_iff.mp h
  rw [hdecode, readAttributes_append htrailer₁ htrailer hfront, hdecode₂]
  rcases readAttributes_trailers htrailer htrailer₂ rest with
    ⟨tail, hwhole, hrest⟩ | ⟨fault, fault', hwhole, hrest, hsame⟩
  · rw [hwhole, hrest]
    refine ⟨⟨fun _ => ⟨_, rfl⟩, fun _ => ⟨_, rfl⟩⟩, ?_, ?_⟩
    · intro whole tail' hok hok'
      obtain rfl := Except.ok.inj hok
      obtain rfl := Except.ok.inj hok'
      rfl
    · intro fault herror
      cases herror
  · rw [hwhole, hrest]
    refine ⟨⟨?_, ?_⟩, ?_, ?_⟩
    · rintro ⟨whole, hok⟩
      cases hok
    · rintro ⟨tail, hok⟩
      cases hok
    · intro whole tail hok
      cases hok
    · intro fault'' herror
      obtain rfl := Except.error.inj herror
      exact ⟨fault', rfl, hsame, hsame.errorClass_eq⟩

/-- The second piece ends within the length of its attribute, in the frame around both pieces as in
the frame around the second one. The declared lengths are read from two different checksums. -/
theorem decode_ofSection_append_incomplete :
    Packet.decode (ofSection 1 [3, 1, 170]) =
        .ok { type := 1, attributes := [{ kind := 3, payload := [170] }] } ∧
      Packet.decode (ofSection 1 ([3, 1, 170] ++ [9, 133])) =
        .error (.attributeOverrun 9 13061 0) ∧
      ∃ declared,
        Packet.decode (ofSection 1 [9, 133]) = .error (.attributeOverrun 9 declared 0) := by
  have hfront : Packet.decode (ofSection 1 [3, 1, 170]) =
      .ok { type := 1, attributes := [{ kind := 3, payload := [170] }] } := by
    decide +kernel
  have hwhole : Packet.decode (ofSection 1 ([3, 1, 170] ++ [9, 133])) =
      .error (.attributeOverrun 9 13061 0) := by
    decide +kernel
  have hlength : ([3, 1, 170] : Bytes).length + ([9, 133] : Bytes).length ≤ 65535 := by decide
  obtain ⟨-, -, hrefused⟩ := decode_ofSection_append (by decide) hlength hfront
  obtain ⟨fault', hrest, ⟨kind, declared, declared', left, hfault, rfl⟩, -, -⟩ :=
    hrefused _ hwhole
  obtain ⟨rfl, -, rfl⟩ := Fault.attributeOverrun.inj hfault
  exact ⟨hfront, hwhole, declared', hrest⟩

end TunerWire.Packet

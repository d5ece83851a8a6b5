import TunerWire.Proofs.Refusal

/-!
# What the report of an incomplete attribute says

An attribute that is not complete is reported with the length it declares and the number of bytes
that the section holds behind this length. The report states a shortage, more bytes declared than
there are, wherever the length is all in the section. A length that runs past the section is put
together with bytes of the checksum, and what remains behind it counts as zero. Where the bytes on
both sides of the border spell zero (`ZeroAcross`), the attribute is still refused, and the report
says that zero bytes are declared and zero bytes remain. There is no other report without a shortage
(`overrun_report`).
-/

namespace TunerWire

namespace Frame

/-- The length behind a kind begins with what remains of the section, ends in the trailer, and
spells zero. -/
def ZeroAcross (trailer remaining : Bytes) : Prop :=
  ∃ form : Form, remaining.length < form.width ∧ form.bytes 0 <+: remaining ++ trailer

theorem zeroAcross_iff {trailer remaining : Bytes} {tag : TagLength.Reading}
    (htrailer : TagLength.windowSize ≤ trailer.length)
    (htag : TagLength.read (lengthWindow trailer remaining) = .ok tag) :
    ZeroAcross trailer remaining ↔ tag.length = 0 ∧ remaining.length < tag.used := by
  constructor
  · rintro ⟨form, hpast, hbegins⟩
    have hadmits : form.Admits 0 := by
      cases form with
      | short => exact Nat.zero_le 127
      | long => exact Nat.zero_le 32767
    have hwindow : form.bytes 0 <+: lengthWindow trailer remaining := by
      rw [lengthWindow_eq_take, List.prefix_take_iff]
      exact ⟨hbegins, form.length_bytes_le 0⟩
    have hzero : TagLength.read (lengthWindow trailer remaining) =
        .ok { length := 0, used := form.width } :=
      read_window_eq_ok_iff.mpr ⟨length_lengthWindow htrailer _, form, hadmits, rfl, hwindow⟩
    obtain rfl := Except.ok.inj (htag.symm.trans hzero)
    exact ⟨rfl, hpast⟩
  · rintro ⟨hzero, hpast⟩
    obtain ⟨form, -, hused, hbegins⟩ := exists_form_of_read_lengthWindow htag
    rw [hzero] at hbegins
    exact ⟨form, hused ▸ hpast, hbegins⟩

/-- The report of an attribute that is not complete states a shortage, unless its length spells zero
across the border. -/
theorem shortage_iff {trailer remaining : Bytes} {kind : UInt8} {tag : TagLength.Reading}
    (htrailer : TagLength.windowSize ≤ trailer.length)
    (hincomplete : ¬ BeginsComplete (kind :: remaining))
    (htag : TagLength.read (lengthWindow trailer remaining) = .ok tag) :
    (behindLength remaining).length < tag.length ↔ ¬ ZeroAcross trailer remaining := by
  -- Without a shortage the length itself does not fit, so no payload can have been declared.
  rw [beginsComplete_iff htrailer htag, Nat.not_le] at hincomplete
  rw [zeroAcross_iff htrailer htag, length_behindLength htrailer htag]
  omega

end Frame

namespace Packet

open TunerWire.Frame

/-- **What the report of an incomplete attribute says.** The declared length is greater than the
count of remaining bytes, but for one case: the length runs past the section and spells zero
together with the checksum, and then both numbers are zero. -/
theorem overrun_report {frame : Bytes} {kind : UInt8} {declared left : Nat}
    (h : Packet.decode frame = .error (.attributeOverrun kind declared left)) :
    ∃ remaining, FirstIncomplete (sectionOf frame) kind remaining ∧
      (left < declared ↔ ¬ ZeroAcross (trailer frame) remaining) ∧
      (ZeroAcross (trailer frame) remaining → declared = 0 ∧ left = 0) := by
  have hrefusal := refusal_of_decode h
  cases hrefusal with
  | incomplete hsize hsum hsection hfirst htag =>
    have htrailer := windowSize_le_length_trailer hsize
    refine ⟨_, hfirst, shortage_iff htrailer hfirst.not_complete htag, ?_⟩
    rw [zeroAcross_iff htrailer htag, length_behindLength htrailer htag]
    omega

/-- Two attributes whose length runs into the checksum: the first one is reported with a shortage,
the second one has a length that spells zero. -/
theorem overrun_report_across_border :
    (Packet.decode [0, 1, 0, 5, 3, 1, 170, 9, 133, 102, 140, 141, 29] =
        .error (.attributeOverrun 9 13061 0) ∧
      ∃ remaining,
        FirstIncomplete (sectionOf [0, 1, 0, 5, 3, 1, 170, 9, 133, 102, 140, 141, 29]) 9 remaining ∧
        ¬ ZeroAcross (trailer [0, 1, 0, 5, 3, 1, 170, 9, 133, 102, 140, 141, 29]) remaining) ∧
    Packet.decode [0, 0, 0, 1, 219, 0, 205, 56, 206] = .error (.attributeOverrun 219 0 0) ∧
      ∃ remaining, FirstIncomplete (sectionOf [0, 0, 0, 1, 219, 0, 205, 56, 206]) 219 remaining ∧
        ZeroAcross (trailer [0, 0, 0, 1, 219, 0, 205, 56, 206]) remaining := by
  have hborder : Packet.decode [0, 1, 0, 5, 3, 1, 170, 9, 133, 102, 140, 141, 29] =
      .error (.attributeOverrun 9 13061 0) := by
    decide +kernel
  have hzero : Packet.decode [0, 0, 0, 1, 219, 0, 205, 56, 206] =
      .error (.attributeOverrun 219 0 0) := by
    decide +kernel
  obtain ⟨remaining, hfirst, hshortage, -⟩ := overrun_report hborder
  obtain ⟨remaining', hfirst', hshortage', -⟩ := overrun_report hzero
  exact ⟨⟨hborder, remaining, hfirst, hshortage.mp (by decide)⟩, hzero, remaining', hfirst',
    not_not.mp (mt hshortage'.mpr (by decide))⟩

/-- The length of the only attribute is the first byte of the checksum, which is zero. The report
denies the shortage that it is made for. -/
theorem overrun_without_shortage :
    Packet.decode [0, 0, 0, 1, 219, 0, 205, 56, 206] = .error (.attributeOverrun 219 0 0) ∧
      (Fault.attributeOverrun 219 0 0).message = "Attribute 0xDB declares 0 bytes, 0 remain" ∧
      ¬ ∀ (frame : Bytes) (kind : UInt8) (declared left : Nat),
        Packet.decode frame = .error (.attributeOverrun kind declared left) → left < declared := by
  have h : Packet.decode [0, 0, 0, 1, 219, 0, 205, 56, 206] =
      .error (.attributeOverrun 219 0 0) := by
    decide +kernel
  exact ⟨h, by decide +kernel, fun hall => Nat.lt_irrefl 0 (hall _ _ _ _ h)⟩

end Packet

end TunerWire

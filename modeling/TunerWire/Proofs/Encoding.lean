import TunerWire.Frame.Encode
import TunerWire.Proofs.Decoding
import TunerWire.Proofs.Outcome

/-!
# Encoding and the grammar of frames

Encoding adds up the sizes of the attributes, and then writes into a buffer of that size in place.
Both passes agree with the grammar: the sizes are those of the attributes in their shortest forms
(`addSizes_eq_ok_iff`), and what is written in place is those bytes one after the other
(`putAttributes_eq_put`). The window of a length in one byte lies over a byte that is written
later, so what the window leaves there does not matter.

Together: encoding gives exactly the frame that spells the packet in the shortest forms
(`encode_eq_ok_iff`).
-/

namespace TunerWire

open Octets

namespace Frame

/-! ### The shortest forms -/

/-- The form of each attribute that takes the fewest bytes. -/
def leastForms (attributes : List Attribute) : List Form :=
  attributes.map fun a => .least a.payload.length

/-- Attributes with their shortest forms. -/
def leastSpelling (attributes : List Attribute) : List (Form × Attribute) :=
  (leastForms attributes).zip attributes

@[simp] theorem length_leastForms (attributes : List Attribute) :
    (leastForms attributes).length = attributes.length :=
  List.length_map _

@[simp] theorem leastSpelling_nil : leastSpelling [] = [] := rfl

@[simp] theorem leastSpelling_cons (a : Attribute) (rest : List Attribute) :
    leastSpelling (a :: rest) = (.least a.payload.length, a) :: leastSpelling rest := rfl

theorem admits_least_iff {length : Nat} :
    (Form.least length).Admits length ↔ length ≤ 32767 := by
  rw [Form.least]
  split
  · simp only [Form.Admits]
    omega
  · simp only [Form.Admits]

/-- The field of a length has the width of its shortest form. -/
theorem size_eq_ok_iff_least {length width : Nat} :
    TagLength.size length = .ok width ↔
      (Form.least length).Admits length ∧ width = (Form.least length).width := by
  rw [TagLength.size_eq_ok_iff, Form.least]
  by_cases h : length ≤ 127
  · rw [if_pos h]
    simp only [Form.Admits, Form.width]
    omega
  · rw [if_neg h]
    simp only [Form.Admits, Form.width]
    omega

/-! ### Sizes -/

theorem checkRange_eq_ok_iff {fault : Int → Fault} {max : Nat} {z : Int} {u : Unit} :
    checkRange fault max z = .ok u ↔ 0 ≤ z ∧ z ≤ max := by
  rw [checkRange]
  split
  · next h => exact ⟨fun _ => h, fun _ => rfl⟩
  · next h =>
    constructor
    · intro herror
      cases herror
    · exact fun h' => absurd h' h

theorem checkRange_eq_error_iff {fault : Int → Fault} {max : Nat} {z : Int} {f : Fault} :
    checkRange fault max z = .error f ↔ ¬ (0 ≤ z ∧ z ≤ max) ∧ f = fault z := by
  rw [checkRange]
  split
  · next h =>
    constructor
    · intro hok
      cases hok
    · exact fun h' => absurd h h'.1
  · next h => exact ⟨fun herror => ⟨h, (Except.error.inj herror).symm⟩, fun h' => h'.2 ▸ rfl⟩

theorem attributeSize_eq_ok_iff {a : Attribute} {size : Nat} :
    attributeSize a = .ok size ↔
      Fits (.least a.payload.length) a ∧
        size = (attributeBytes (.least a.payload.length) a).length := by
  rw [attributeSize, length_attributeBytes, Fits]
  constructor
  · intro h
    obtain ⟨_, hkind, h⟩ := bind_eq_ok_iff.mp h
    obtain ⟨width, hwidth, h⟩ := bind_eq_ok_iff.mp h
    obtain ⟨hkind, hkind'⟩ := checkRange_eq_ok_iff.mp hkind
    obtain ⟨hadmits, rfl⟩ := size_eq_ok_iff_least.mp (mapError_eq_ok_iff.mp hwidth)
    exact ⟨⟨hkind, hkind', hadmits⟩, (Except.ok.inj h).symm⟩
  · rintro ⟨⟨hkind, hkind', hadmits⟩, rfl⟩
    refine bind_eq_ok_iff.mpr ⟨(), checkRange_eq_ok_iff.mpr ⟨hkind, hkind'⟩, ?_⟩
    have hwidth := size_eq_ok_iff_least.mpr ⟨hadmits, rfl⟩
    exact bind_eq_ok_iff.mpr ⟨_, mapError_eq_ok_iff.mpr hwidth, rfl⟩

/-- The sizes add up, and they do so exactly when every attribute fits its fields. -/
theorem addSizes_eq_ok_iff {total size : Nat} {attributes : List Attribute} :
    addSizes total attributes = .ok size ↔
      AllFit (leastSpelling attributes) ∧
        size = total + (sectionBytes (leastSpelling attributes)).length := by
  induction attributes generalizing total with
  | nil =>
    rw [addSizes, Except.ok.injEq, leastSpelling_nil, sectionBytes_nil]
    constructor
    · rintro rfl
      exact ⟨allFit_nil, rfl⟩
    · rintro ⟨-, rfl⟩
      rfl
  | cons a rest ih =>
    rw [leastSpelling_cons, allFit_cons, sectionBytes_cons, List.length_append, addSizes]
    constructor
    · intro h
      obtain ⟨first, hfirst, h⟩ := bind_eq_ok_iff.mp h
      obtain ⟨ha, rfl⟩ := attributeSize_eq_ok_iff.mp hfirst
      obtain ⟨hrest, rfl⟩ := ih.mp h
      exact ⟨⟨ha, hrest⟩, Nat.add_assoc ..⟩
    · rintro ⟨⟨ha, hrest⟩, rfl⟩
      refine bind_eq_ok_iff.mpr ⟨_, attributeSize_eq_ok_iff.mpr ⟨ha, rfl⟩, ?_⟩
      exact ih.mpr ⟨hrest, (Nat.add_assoc ..).symm⟩

theorem sectionSize_eq_ok_iff {size : Nat} {attributes : List Attribute} :
    sectionSize attributes = .ok size ↔
      AllFit (leastSpelling attributes) ∧
        size = (sectionBytes (leastSpelling attributes)).length := by
  rw [sectionSize, addSizes_eq_ok_iff, Nat.zero_add]

end Frame

/-! ### Writing in place -/

namespace Draft

open TunerWire.Frame

theorem store_append (buffer : Array UInt8) (index : Nat) (a b : Bytes) :
    store buffer index (a ++ b) = store (store buffer index a) (index + a.length) b := by
  induction a generalizing buffer index with
  | nil => rfl
  | cons c a ih =>
    rw [List.cons_append, store, store, ih, List.length_cons, Nat.add_assoc, Nat.add_comm 1]

@[simp] theorem cursor_put (draft : Draft) (bytes : Bytes) :
    (draft.put bytes).cursor = draft.cursor + bytes.length := rfl

@[simp] theorem size_put (draft : Draft) (bytes : Bytes) :
    (draft.put bytes).buffer.size = draft.buffer.size :=
  size_store ..

theorem put_append (draft : Draft) (a b : Bytes) :
    draft.put (a ++ b) = (draft.put a).put b := by
  simp only [put, store_append, List.length_append, Nat.add_assoc]

/-- The masks of a length in two bytes set the high bit over the low seven bits. -/
theorem or_high_and_low (length : Nat) :
    (0x80 : UInt8) ||| (UInt8.ofNat length &&& 0x7F) = UInt8.ofNat (128 + length % 128) := by
  apply UInt8.toNat_inj.mp
  have hlt : length % 128 < 2 ^ 7 := Nat.mod_lt _ (by decide)
  -- No bit is set on both sides, so the disjunction is a sum.
  have hor : 128 ||| length % 128 = 128 + length % 128 :=
    (Nat.two_pow_add_eq_or_of_lt hlt 1).symm
  rw [UInt8.toNat_or, TagLength.toNat_and_low, UInt8.toNat_ofNat', UInt8.toNat_ofNat',
    show (0x80 : UInt8).toNat = 128 from rfl, Nat.mod_mod_of_dvd _ (by decide), hor]
  omega

/-- Through a writable window of two bytes, a length is written as its bytes, from the start of the
window. -/
theorem write_eq_store {window : Window} {length : Nat} (hsize : window.size = TagLength.windowSize)
    (haccess : window.access = .writable) (h : (Form.least length).Admits length) :
    TagLength.write length window =
      .ok { buffer := store window.buffer window.start ((Form.least length).bytes length),
            used := (Form.least length).width } := by
  have hfield : TagLength.size length = .ok (Form.least length).width :=
    size_eq_ok_iff_least.mpr ⟨h, rfl⟩
  rw [TagLength.write, if_neg (not_not_intro hsize), hfield]
  simp only [haccess, ne_eq, not_true_eq_false, if_false, Int.toNat_natCast]
  by_cases hshort : length ≤ 127
  · rw [Form.least, if_pos hshort]
    rfl
  · rw [Form.least, if_neg hshort, or_high_and_low, Nat.shiftRight_eq_div_pow]
    rfl

theorem write_windowAt {buffer : Array UInt8} {index length : Nat}
    (hroom : index + TagLength.windowSize ≤ buffer.size)
    (h : (Form.least length).Admits length) :
    TagLength.write length (windowAt buffer index) =
      .ok { buffer := store buffer index ((Form.least length).bytes length),
            used := (Form.least length).width } := by
  refine write_eq_store ?_ rfl h
  rw [Window.size, windowAt]
  simp only
  omega

/-- Where there is room for a window at the cursor, writing a length through it writes the bytes
of the length. -/
theorem putLength_eq_put {draft : Draft} {length : Nat}
    (hroom : draft.cursor + TagLength.windowSize ≤ draft.buffer.size)
    (h : (Form.least length).Admits length) :
    draft.putLength length = .ok (draft.put ((Form.least length).bytes length)) := by
  obtain ⟨buffer, cursor⟩ := draft
  refine bind_eq_ok_iff.mpr ⟨_, write_windowAt hroom h, ?_⟩
  rw [put, Form.length_bytes]
  rfl

theorem putAttribute_eq_put {draft : Draft} {a : Attribute}
    (hroom : draft.cursor + 1 + TagLength.windowSize ≤ draft.buffer.size)
    (h : Fits (.least a.payload.length) a) :
    draft.putAttribute a = .ok (draft.put (attributeBytes (.least a.payload.length) a)) := by
  have hlength : (draft.put [UInt8.ofNat a.kind.toNat]).putLength a.payload.length = _ :=
    putLength_eq_put (by rw [cursor_put, size_put]; exact hroom) h.2.2
  refine bind_eq_ok_iff.mpr ⟨_, hlength, ?_⟩
  rw [← put_append, ← put_append]
  rfl

/-- Attributes that fit their fields are written as the bytes of their section, if a trailer of
two bytes or more is to follow. -/
theorem putAttributes_eq_put {draft : Draft} {attributes : List Attribute}
    (hroom : draft.cursor + (sectionBytes (leastSpelling attributes)).length +
      TagLength.windowSize ≤ draft.buffer.size)
    (h : AllFit (leastSpelling attributes)) :
    draft.putAttributes attributes =
      .ok (draft.put (sectionBytes (leastSpelling attributes))) := by
  induction attributes generalizing draft with
  | nil => rfl
  | cons a rest ih =>
    obtain ⟨ha, hrest⟩ := allFit_cons.mp h
    rw [leastSpelling_cons, sectionBytes_cons, List.length_append] at hroom
    have hlength := length_attributeBytes (.least a.payload.length) a
    have hfirst : draft.putAttribute a = _ := putAttribute_eq_put (by omega) ha
    rw [leastSpelling_cons, sectionBytes_cons, put_append, putAttributes]
    -- The room behind the first attribute is what the rest and the trailer take.
    refine bind_eq_ok_iff.mpr ⟨_, hfirst, ih ?_ hrest⟩
    rw [cursor_put, size_put]
    omega

theorem toList_put_blank {size : Nat} {bytes : Bytes} (h : bytes.length ≤ size) :
    ((blank size).put bytes).buffer.toList = bytes ++ List.replicate (size - bytes.length) 0 := by
  rw [blank, put]
  rw [toList_store (by rw [Array.size_replicate]; omega), Array.toList_replicate,
    List.take_zero, List.nil_append, Nat.zero_add, List.drop_replicate]

/-- The checksum closes a frame that has room for nothing more. -/
theorem toList_putChecksum {size : Nat} {bytes : Bytes}
    (h : bytes.length + checksumSize = size) :
    ((blank size).put bytes).putChecksum.buffer.toList = withChecksum bytes := by
  have hwritten : (((blank size).put bytes).buffer.extract 0
      ((blank size).put bytes).cursor).toList = bytes := by
    rw [Array.toList_extract, toList_put_blank (by omega), cursor_put]
    simp [blank]
  rw [putChecksum, hwritten, ← put_append, toList_put_blank (by simp; omega)]
  simp [withChecksum, ← h]

end Draft

namespace Packet

open TunerWire.Frame

/-- Writing a packet whose sizes were found good gives the frame around its section. -/
theorem toList_draft (type : Nat) {attributes : List Attribute} {size : Nat}
    (hsize : sectionSize attributes = .ok size) :
    ∃ draft : Draft,
      (((Draft.blank (headerSize + size + checksumSize)).put (bigEndian 2 type)).put
        (bigEndian 2 size)).putAttributes attributes = .ok draft ∧
      draft.putChecksum.buffer.toList =
        ofSection type (sectionBytes (leastSpelling attributes)) := by
  obtain ⟨hfits, rfl⟩ := sectionSize_eq_ok_iff.mp hsize
  rw [← Draft.put_append, ← header]
  refine ⟨_, Draft.putAttributes_eq_put ?_ hfits, ?_⟩
  · rw [Draft.cursor_put, Draft.size_put, length_header]
    simp only [Draft.blank, Array.size_replicate, TagLength.windowSize, checksumSize]
    omega
  · rw [← Draft.put_append, Draft.toList_putChecksum (by rw [List.length_append, length_header])]
    rfl

/-- Encoding gives the frame that spells the packet in the shortest forms, and it fails where
there is none. -/
theorem encode_eq_ok_iff {packet : Packet} {frame : Bytes} :
    packet.encode = .ok frame ↔ Spells frame packet (leastForms packet.attributes) := by
  constructor
  · intro h
    obtain ⟨_, htype, h⟩ := bind_eq_ok_iff.mp h
    obtain ⟨size, hsize, h⟩ := bind_eq_ok_iff.mp h
    obtain ⟨draft, hdraft, hframe⟩ := toList_draft packet.type.toNat hsize
    obtain ⟨hfits, hlength⟩ := sectionSize_eq_ok_iff.mp hsize
    by_cases hlarge : maxSection < size
    · rw [if_pos hlarge] at h
      cases h
    · rw [if_neg hlarge] at h
      obtain ⟨draft', hdraft', h⟩ := bind_eq_ok_iff.mp h
      obtain rfl := Except.ok.inj (hdraft.symm.trans hdraft')
      refine ⟨length_leastForms _, checkRange_eq_ok_iff.mp htype, hfits, ?_, ?_⟩
      · rw [maxSection] at hlarge
        rw [← leastSpelling, ← hlength]
        omega
      · rw [← leastSpelling, ← hframe]
        exact (Except.ok.inj h).symm
  · intro h
    have hsize := sectionSize_eq_ok_iff.mpr ⟨h.fits, rfl⟩
    obtain ⟨draft, hdraft, hframe⟩ := toList_draft packet.type.toNat hsize
    have hsmall : ¬ maxSection < (sectionBytes (leastSpelling packet.attributes)).length :=
      Nat.not_lt.mpr h.section_le
    refine bind_eq_ok_iff.mpr ⟨(), checkRange_eq_ok_iff.mpr h.type_mem, ?_⟩
    refine bind_eq_ok_iff.mpr ⟨_, hsize, ?_⟩
    rw [if_neg hsmall]
    refine bind_eq_ok_iff.mpr ⟨draft, hdraft, ?_⟩
    rw [hframe, h.frame_eq]
    rfl

end Packet

end TunerWire

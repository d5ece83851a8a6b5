import Mathlib.Tactic.ByContra
import TunerWire.Proofs.Grammar

/-!
# Decoding and the grammar of frames

A frame is decoded in stages: its size, its checksum, the size of its section, its attributes. Each
stage is a lemma here, and together they say that decoding accepts exactly the frames that spell a
packet (`Spells`), and that a frame spells at most one packet in at most one choice of forms.
-/

namespace TunerWire

open Octets

namespace Frame

/-! ### The checksum -/

/-- The last four bytes are the checksum of the bytes before them. -/
def ChecksumHolds (frame : Bytes) : Prop :=
  frame.drop (frame.length - checksumSize) =
    littleEndian checksumSize
      (Checksum.crc32 (frame.take (frame.length - checksumSize))).toNat

instance (frame : Bytes) : Decidable (ChecksumHolds frame) :=
  inferInstanceAs (Decidable (_ = _))

/-- The fault of a frame that carries another checksum than that of its bytes: the one that it
carries, and the one that is computed. -/
def checksumFault (frame : Bytes) : Fault :=
  .checksumMismatch (ofLittleEndian (frame.drop (frame.length - checksumSize)))
    (Checksum.crc32 (frame.take (frame.length - checksumSize))).toNat

@[simp] theorem length_withChecksum (body : Bytes) :
    (withChecksum body).length = body.length + checksumSize := by
  rw [withChecksum, List.length_append, length_littleEndian]

theorem take_withChecksum (body : Bytes) :
    (withChecksum body).take ((withChecksum body).length - checksumSize) = body := by
  rw [length_withChecksum, Nat.add_sub_cancel, withChecksum, List.take_left]

theorem drop_withChecksum (body : Bytes) :
    (withChecksum body).drop ((withChecksum body).length - checksumSize) =
      littleEndian checksumSize (Checksum.crc32 body).toNat := by
  rw [length_withChecksum, Nat.add_sub_cancel, withChecksum, List.drop_left]

theorem checksumHolds_withChecksum (body : Bytes) : ChecksumHolds (withChecksum body) := by
  rw [ChecksumHolds, drop_withChecksum, take_withChecksum]

theorem ChecksumHolds.eq_withChecksum {frame : Bytes} (h : ChecksumHolds frame) :
    frame = withChecksum (frame.take (frame.length - checksumSize)) := by
  rw [withChecksum, ← h, List.take_append_drop]

theorem ofLittleEndian_crc32 (body : Bytes) :
    ofLittleEndian (littleEndian checksumSize (Checksum.crc32 body).toNat) =
      (Checksum.crc32 body).toNat := by
  rw [ofLittleEndian_littleEndian]
  exact Nat.mod_eq_of_lt (BitVec.isLt _)

/-- A checksum is a trailer that completes every window on a tag length. -/
theorem windowSize_le_length_crc32 (body : Bytes) :
    TagLength.windowSize ≤ (littleEndian checksumSize (Checksum.crc32 body).toNat).length := by
  rw [length_littleEndian]
  decide

/-- The number that the last four bytes spell is the checksum exactly when the bytes are. -/
theorem ofLittleEndian_eq_crc32_iff {frame : Bytes} (hsize : checksumSize ≤ frame.length) :
    ofLittleEndian (frame.drop (frame.length - checksumSize)) =
        (Checksum.crc32 (frame.take (frame.length - checksumSize))).toNat ↔
      ChecksumHolds frame := by
  have hlength : (frame.drop (frame.length - checksumSize)).length = checksumSize := by
    rw [List.length_drop]
    omega
  constructor
  · intro h
    have hback := littleEndian_ofLittleEndian (frame.drop (frame.length - checksumSize))
    rw [hlength] at hback
    rw [ChecksumHolds, ← h, hback]
  · intro h
    rw [h, ofLittleEndian_crc32]

/-! ### The header -/

@[simp] theorem length_header (type sectionLength : Nat) :
    (header type sectionLength).length = headerSize := by
  rw [header, List.length_append, length_bigEndian, length_bigEndian]
  rfl

theorem take_header_append (type sectionLength : Nat) (body : Bytes) :
    (header type sectionLength ++ body).take 2 = bigEndian 2 type := by
  rw [header, List.append_assoc]
  exact List.take_left' (length_bigEndian 2 type)

theorem take_drop_header_append (type sectionLength : Nat) (body : Bytes) :
    ((header type sectionLength ++ body).drop 2).take 2 = bigEndian 2 sectionLength := by
  rw [header, List.append_assoc, List.drop_left' (length_bigEndian 2 type)]
  exact List.take_left' (length_bigEndian 2 sectionLength)

theorem drop_header_append (type sectionLength : Nat) (body : Bytes) :
    (header type sectionLength ++ body).drop headerSize = body :=
  List.drop_left' (length_header type sectionLength)

theorem ofBigEndian_two_le {bytes : Bytes} (h : bytes.length = 2) : ofBigEndian bytes ≤ 65535 := by
  have hlt := ofBigEndian_lt bytes
  rw [h, show capacity 2 = 65536 from rfl] at hlt
  omega

theorem ofBigEndian_bigEndian_two {n : Nat} (h : n ≤ 65535) : ofBigEndian (bigEndian 2 n) = n := by
  rw [ofBigEndian_bigEndian, show capacity 2 = 65536 from rfl]
  omega

theorem header_append_drop {body : Bytes} (hsize : headerSize ≤ body.length) :
    header (ofBigEndian (body.take 2)) (ofBigEndian ((body.drop 2).take 2)) ++
        body.drop headerSize = body := by
  rw [headerSize] at hsize
  have htype : (body.take 2).length = 2 := by
    rw [List.length_take]
    omega
  have hsection : ((body.drop 2).take 2).length = 2 := by
    rw [List.length_take, List.length_drop]
    omega
  have hleft := bigEndian_ofBigEndian (body.take 2)
  have hright := bigEndian_ofBigEndian ((body.drop 2).take 2)
  rw [htype] at hleft
  rw [hsection] at hright
  have hrest : body.drop headerSize = (body.drop 2).drop 2 := by
    rw [List.drop_drop]
    rfl
  rw [header, hleft, hright, hrest, List.append_assoc, List.take_append_drop,
    List.take_append_drop]

@[simp] theorem length_ofSection (type : Nat) (body : Bytes) :
    (ofSection type body).length = body.length + minSize := by
  rw [ofSection, length_withChecksum, List.length_append, length_header, minSize]
  omega

/-- A frame shows its type and its section. -/
theorem ofSection_inj {type type' : Nat} {body body' : Bytes} (htype : type ≤ 65535)
    (htype' : type' ≤ 65535) (h : ofSection type body = ofSection type' body') :
    type = type' ∧ body = body' := by
  have hbodies := take_withChecksum (header type body.length ++ body)
  rw [← ofSection, h, ofSection, take_withChecksum] at hbodies
  constructor
  · have hheaders := take_header_append type body.length body
    rw [← hbodies, take_header_append] at hheaders
    rw [← ofBigEndian_bigEndian_two htype, ← hheaders, ofBigEndian_bigEndian_two htype']
  · have hdrop := drop_header_append type body.length body
    rw [← hbodies, drop_header_append] at hdrop
    exact hdrop.symm

end Frame

/-! ### The stages of decoding -/

namespace Packet

open TunerWire.Frame

theorem decode_of_length_lt {frame : Bytes} (h : frame.length < minSize) :
    Packet.decode frame = .error (.frameTooShort frame.length) := by
  simp only [Packet.decode]
  rw [if_pos h]

/-- A frame that carries another checksum than that of its bytes is refused, whatever it holds. -/
theorem decode_of_not_checksumHolds {frame : Bytes} (hsize : minSize ≤ frame.length)
    (h : ¬ ChecksumHolds frame) :
    Packet.decode frame = .error (checksumFault frame) := by
  have hne := mt (ofLittleEndian_eq_crc32_iff (Nat.le_trans (by decide) hsize)).mp h
  simp only [Packet.decode]
  rw [if_neg (Nat.not_lt.mpr hsize), if_pos hne]
  rfl

/-- Behind a good checksum the header is read, and then the section if it has the size that the
header declares. -/
theorem decode_withChecksum {body : Bytes} (hsize : headerSize ≤ body.length) :
    Packet.decode (withChecksum body) =
      if ofBigEndian ((body.drop 2).take 2) ≠ body.length - headerSize then
        .error (.sectionMismatch (ofBigEndian ((body.drop 2).take 2)) (body.length - headerSize))
      else
        (readAttributes (littleEndian checksumSize (Checksum.crc32 body).toNat) []
          (body.drop headerSize)).map fun attributes =>
            { type := ofBigEndian (body.take 2), attributes } := by
  have hlarge : ¬ (withChecksum body).length < minSize := by
    rw [length_withChecksum, minSize]
    omega
  have hsection : (withChecksum body).length - minSize = body.length - headerSize := by
    rw [length_withChecksum, minSize]
    omega
  simp only [Packet.decode, take_withChecksum, drop_withChecksum]
  rw [if_neg hlarge, if_neg (not_not_intro (ofLittleEndian_crc32 body)), hsection]
  cases readAttributes _ [] (body.drop headerSize) <;> rfl

/-- In a frame around a section, the attributes are all that is left to read. -/
theorem decode_ofSection {type : Nat} {body : Bytes} (htype : type ≤ 65535)
    (hbody : body.length ≤ 65535) :
    Packet.decode (ofSection type body) =
      (readAttributes
        (littleEndian checksumSize (Checksum.crc32 (header type body.length ++ body)).toNat) []
        body).map fun attributes => { type := type, attributes } := by
  have hlength : (header type body.length ++ body).length = headerSize + body.length := by
    rw [List.length_append, length_header]
  rw [ofSection, decode_withChecksum (by omega), take_drop_header_append, take_header_append,
    drop_header_append, ofBigEndian_bigEndian_two hbody, ofBigEndian_bigEndian_two htype,
    hlength, Nat.add_sub_cancel_left, if_neg (not_not_intro rfl)]

theorem exists_withChecksum_of_decode {frame : Bytes} {packet : Packet}
    (h : Packet.decode frame = .ok packet) :
    ∃ body, headerSize ≤ body.length ∧ frame = withChecksum body := by
  have hsize : minSize ≤ frame.length := by
    by_contra hsmall
    rw [decode_of_length_lt (Nat.lt_of_not_le hsmall)] at h
    cases h
  have hsum : ChecksumHolds frame := by
    by_contra hbad
    rw [decode_of_not_checksumHolds hsize hbad] at h
    cases h
  refine ⟨_, ?_, hsum.eq_withChecksum⟩
  rw [List.length_take]
  rw [minSize] at hsize
  omega

/-- A frame that is accepted has the shape of a header, a section and a checksum. -/
theorem exists_ofSection_of_decode {frame : Bytes} {packet : Packet}
    (h : Packet.decode frame = .ok packet) :
    ∃ type body, type ≤ 65535 ∧ body.length ≤ 65535 ∧ frame = ofSection type body := by
  obtain ⟨body, hsize, rfl⟩ := exists_withChecksum_of_decode h
  rw [decode_withChecksum hsize] at h
  have hshape := header_append_drop hsize
  by_cases hsection : ofBigEndian ((body.drop 2).take 2) = body.length - headerSize
  · rw [hsection, ← List.length_drop] at hshape
    rw [headerSize] at hsize
    refine ⟨ofBigEndian (body.take 2), body.drop headerSize, ?_, ?_, ?_⟩
    · exact ofBigEndian_two_le (by rw [List.length_take]; omega)
    · rw [List.length_drop, ← hsection]
      exact ofBigEndian_two_le (by rw [List.length_take, List.length_drop]; omega)
    · rw [ofSection, hshape]
  · rw [if_pos hsection] at h
    cases h

theorem decode_of_spells {frame : Bytes} {packet : Packet} {forms : List Form}
    (h : Spells frame packet forms) : Packet.decode frame = .ok packet := by
  obtain ⟨type, attributes⟩ := packet
  have hsnd : (forms.zip attributes).map Prod.snd = attributes :=
    List.map_snd_zip (Nat.le_of_eq h.length_eq.symm)
  have htype : (type.toNat : Int) = type := Int.toNat_of_nonneg h.type_mem.1
  have hle : type ≤ 65535 := h.type_mem.2
  rw [h.frame_eq, decode_ofSection (by simp only; omega) h.section_le,
    (readAttributes_eq_ok_iff (windowSize_le_length_crc32 _)).mpr
      ⟨forms.zip attributes, h.fits, rfl, hsnd.symm⟩]
  simp only [Except.map, htype]

theorem exists_spells_of_decode {frame : Bytes} {packet : Packet}
    (h : Packet.decode frame = .ok packet) : ∃ forms, Spells frame packet forms := by
  obtain ⟨type, body, htype, hbody, rfl⟩ := exists_ofSection_of_decode h
  rw [decode_ofSection htype hbody] at h
  cases hread : readAttributes (littleEndian checksumSize
      (Checksum.crc32 (header type body.length ++ body)).toNat) [] body with
  | error fault =>
    rw [hread] at h
    cases h
  | ok attributes =>
    obtain ⟨l, hfits, rfl, rfl⟩ :=
      (readAttributes_eq_ok_iff (windowSize_le_length_crc32 _)).mp hread
    rw [hread] at h
    obtain rfl := Except.ok.inj h
    have hzip : (l.map Prod.fst).zip (l.map Prod.snd) = l := (List.zip_of_prod rfl rfl).symm
    refine ⟨l.map Prod.fst, ?_, ⟨?_, ?_⟩, ?_, ?_, ?_⟩
    · rw [List.length_map, List.length_map]
    · exact Int.natCast_nonneg type
    · exact Int.ofNat_le.mpr htype
    · rw [hzip]
      exact hfits
    · rw [hzip]
      exact hbody
    · rw [hzip]
      rfl

/-- A frame spells one packet, in one choice of forms. -/
theorem spells_unique {frame : Bytes} {packet packet' : Packet} {forms forms' : List Form}
    (h : Spells frame packet forms) (h' : Spells frame packet' forms') :
    packet' = packet ∧ forms' = forms := by
  have hdecode := decode_of_spells h
  rw [decode_of_spells h', Except.ok.injEq] at hdecode
  subst hdecode
  have hle := h.type_mem.2
  obtain ⟨-, hsections⟩ := ofSection_inj (by omega) (by omega) (h.frame_eq.symm.trans h'.frame_eq)
  have hzip := sectionBytes_inj h.fits h'.fits hsections
  have hfst := List.map_fst_zip (Nat.le_of_eq h.length_eq)
  have hfst' := List.map_fst_zip (Nat.le_of_eq h'.length_eq)
  rw [hzip, hfst'] at hfst
  exact ⟨rfl, hfst⟩

/-- **Decoding accepts the grammar of frames and nothing else**: a frame is decoded to the packet
that it spells, and a frame that spells no packet is refused. Where the lengths of the attributes
are spelled in one byte and where in two is determined by the frame. -/
theorem decode_eq_ok_iff_spells (frame : Bytes) (packet : Packet) :
    (Packet.decode frame = .ok packet ↔ ∃ forms, Spells frame packet forms) ∧
      ∀ forms packet' forms', Spells frame packet forms → Spells frame packet' forms' →
        packet' = packet ∧ forms' = forms := by
  refine ⟨⟨exists_spells_of_decode, ?_⟩, fun _ _ _ => spells_unique⟩
  rintro ⟨forms, h⟩
  exact decode_of_spells h

/-- The length of the first payload is spelled in two bytes, and no other choice of forms spells
the same frame. -/
theorem decode_mixed_forms :
    Packet.decode [0, 1, 0, 10, 3, 129, 0, 170, 4, 0, 4, 2, 128, 1, 27, 114, 179, 204] =
        .ok { type := 1, attributes := [{ kind := 3, payload := [170] }, { kind := 4 },
          { kind := 4, payload := [128, 1] }] } ∧
      Spells [0, 1, 0, 10, 3, 129, 0, 170, 4, 0, 4, 2, 128, 1, 27, 114, 179, 204]
        { type := 1, attributes := [{ kind := 3, payload := [170] }, { kind := 4 },
          { kind := 4, payload := [128, 1] }] } [.long, .short, .short] ∧
      ¬ Spells [0, 1, 0, 10, 3, 129, 0, 170, 4, 0, 4, 2, 128, 1, 27, 114, 179, 204]
        { type := 1, attributes := [{ kind := 3, payload := [170] }, { kind := 4 },
          { kind := 4, payload := [128, 1] }] } [.short, .short, .short] := by
  have h : Spells [0, 1, 0, 10, 3, 129, 0, 170, 4, 0, 4, 2, 128, 1, 27, 114, 179, 204]
      { type := 1, attributes := [{ kind := 3, payload := [170] }, { kind := 4 },
        { kind := 4, payload := [128, 1] }] } [.long, .short, .short] := by
    refine ⟨rfl, by decide, ?_, by decide, by decide +kernel⟩
    refine allFit_cons.mpr ⟨⟨by decide, by decide, by simp [Form.Admits]⟩, ?_⟩
    refine allFit_cons.mpr ⟨⟨by decide, by decide, by simp [Form.Admits]⟩, ?_⟩
    exact allFit_cons.mpr ⟨⟨by decide, by decide, by simp [Form.Admits]⟩, allFit_nil⟩
  refine ⟨(decode_eq_ok_iff_spells _ _).1.mpr ⟨_, h⟩, h, fun h' => ?_⟩
  have hforms := ((decode_eq_ok_iff_spells _ _).2 _ _ _ h h').2
  cases hforms

end Packet

end TunerWire

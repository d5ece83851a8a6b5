import TunerWire.Proofs.Outcome
import TunerWire.Proofs.Stages

/-!
# Decoding by position

Decoding goes from what remains of a section to what remains of it behind an attribute. Here a
frame is decoded a second time, by positions: bytes are looked up at an index of the whole frame,
the fields of the header and the checksum have to lie in it in full, a slice is cut off where the
frame ends, and a cursor goes on until it comes to the end of the section. A look-up outside of the
frame is an outcome of its own (`Trap.outside`).

Both ways come to the same (`decodeAt_eq`): no position is ever outside of the frame, whatever the
frame holds. One round of the cursor is one attribute (`step_eq`), and the rounds are the recursion
on what remains (`run_eq`).
-/

namespace TunerWire

open Octets

namespace Frame

/-! ### Positions -/

/-- How decoding by position ends without a packet. -/
inductive Trap where
  /-- A fault of the frame. -/
  | fault (fault : Fault)
  /-- A position outside of the frame. -/
  | outside (index : Nat)
  deriving DecidableEq, Repr

/-- The byte at a position. -/
def byteAt (frame : Bytes) (index : Nat) : Except Trap UInt8 :=
  match frame[index]? with
  | some byte => .ok byte
  | none => .error (.outside index)

/-- The bytes of a field at a position, which has to lie in the frame in full. -/
def fieldAt (frame : Bytes) (index size : Nat) : Except Trap Bytes :=
  if index + size ≤ frame.length then .ok ((frame.drop index).take size)
  else .error (.outside index)

/-- The bytes from one position up to another, as far as the frame goes. -/
def slice (frame : Bytes) (start stop : Nat) : Bytes := (frame.drop start).take (stop - start)

/-- Where decoding has come to in a section. -/
structure Cursor where
  /-- The position of the next byte. -/
  index : Nat
  /-- The attributes before it. -/
  attributes : List Attribute
  deriving DecidableEq, Repr

namespace Cursor

/-- Read the attribute at the cursor, in a section that ends at `stop`. -/
def step (frame : Bytes) (stop : Nat) (cursor : Cursor) : Except Trap Cursor := do
  let kind ← byteAt frame cursor.index
  let window := slice frame (cursor.index + 1) (cursor.index + 1 + TagLength.windowSize)
  let tag ← (TagLength.read window).mapError .fault
  let start := cursor.index + 1 + tag.used
  -- The length may have ended behind the section, so what is left is an integer.
  let left : Int := stop - start
  if left < tag.length then
    .error (.fault (.attributeOverrun kind tag.length (max left 0).toNat))
  else
    let payload := slice frame start (start + tag.length)
    return { index := start + tag.length,
             attributes := cursor.attributes ++ [{ kind := kind.toNat, payload }] }

/-- The window on the length at the cursor: two bytes behind the kind, as far as the frame goes. -/
def window (frame : Bytes) (cursor : Cursor) : Bytes :=
  slice frame (cursor.index + 1) (cursor.index + 1 + TagLength.windowSize)

/-- Once the kind and the length at the cursor are read, a round goes over the payload, and it is
refused where this would end behind the section. -/
theorem step_of_read {frame : Bytes} {stop : Nat} {cursor : Cursor} {kind : UInt8}
    {tag : TagLength.Reading} (hkind : byteAt frame cursor.index = .ok kind)
    (htag : TagLength.read (cursor.window frame) = .ok tag) :
    cursor.step frame stop =
      if stop < cursor.index + 1 + tag.used + tag.length then
        .error (.fault
          (.attributeOverrun kind tag.length (stop - (cursor.index + 1 + tag.used))))
      else
        .ok { index := cursor.index + 1 + tag.used + tag.length,
              attributes := cursor.attributes ++
                [{ kind := kind.toNat,
                   payload := slice frame (cursor.index + 1 + tag.used)
                     (cursor.index + 1 + tag.used + tag.length) }] } := by
  have hleft : (max ((stop : Int) - (cursor.index + 1 + tag.used : Nat)) 0).toNat =
      stop - (cursor.index + 1 + tag.used) := by omega
  rw [window] at htag
  simp only [step, hkind, htag, Except.mapError, bind, Except.bind, hleft]
  by_cases hpast : stop < cursor.index + 1 + tag.used + tag.length
  · rw [if_pos hpast, if_pos (by omega)]
  · rw [if_neg hpast, if_neg (by omega)]
    rfl

theorem index_lt_of_step {frame : Bytes} {stop : Nat} {cursor next : Cursor}
    (h : cursor.step frame stop = .ok next) : cursor.index < next.index := by
  obtain ⟨kind, -, h⟩ := bind_eq_ok_iff.mp h
  obtain ⟨tag, -, h⟩ := bind_eq_ok_iff.mp h
  simp only at h
  split at h
  · cases h
  · obtain rfl := Except.ok.inj h
    simp only
    omega

/-- Read attributes until the cursor is at the end of the section. -/
def run (frame : Bytes) (stop : Nat) (cursor : Cursor) : Except Trap (List Attribute) :=
  if cursor.index < stop then
    match _h : cursor.step frame stop with
    | .error trap => .error trap
    | .ok next => next.run frame stop
  else .ok cursor.attributes
termination_by stop - cursor.index
decreasing_by
  have := index_lt_of_step _h
  omega

theorem run_of_le {frame : Bytes} {stop : Nat} {cursor : Cursor} (h : stop ≤ cursor.index) :
    cursor.run frame stop = .ok cursor.attributes := by
  rw [run, if_neg (Nat.not_lt.mpr h)]

theorem run_of_error {frame : Bytes} {stop : Nat} {cursor : Cursor} {trap : Trap}
    (hlt : cursor.index < stop) (h : cursor.step frame stop = .error trap) :
    cursor.run frame stop = .error trap := by
  rw [run, if_pos hlt]
  split
  · next trap' h' => rw [Except.error.inj (h'.symm.trans h)]
  · next next h' => cases h'.symm.trans h

theorem run_of_ok {frame : Bytes} {stop : Nat} {cursor next : Cursor}
    (hlt : cursor.index < stop) (h : cursor.step frame stop = .ok next) :
    cursor.run frame stop = next.run frame stop := by
  rw [run, if_pos hlt]
  split
  · next trap h' => cases h'.symm.trans h
  · next next' h' => rw [Except.ok.inj (h'.symm.trans h)]

end Cursor

end Frame

open TunerWire.Frame in
/-- The packet of a frame, by position. -/
def Packet.decodeAt (frame : Bytes) : Except Trap Packet :=
  let stop := frame.length - checksumSize
  if frame.length < minSize then .error (.fault (.frameTooShort frame.length))
  else do
    let carried := ofLittleEndian (← fieldAt frame stop checksumSize)
    let computed := (Checksum.crc32 (slice frame 0 stop)).toNat
    if carried ≠ computed then .error (.fault (.checksumMismatch carried computed))
    else do
      let type := ofBigEndian (← fieldAt frame 0 2)
      let declared := ofBigEndian (← fieldAt frame 2 2)
      if declared ≠ frame.length - minSize then
        .error (.fault (.sectionMismatch declared (frame.length - minSize)))
      else do
        let attributes ← Cursor.run frame stop { index := headerSize, attributes := [] }
        return { type, attributes }

namespace Frame

/-! ### Slices -/

theorem slice_append_cons (front rest : Bytes) (byte : UInt8) (start size : Nat) :
    slice (front ++ byte :: rest) (front.length + 1 + start) (front.length + 1 + start + size) =
      (rest.drop start).take size := by
  rw [slice, Nat.add_sub_cancel_left, Nat.add_assoc, List.drop_length_add_append, Nat.add_comm 1,
    List.drop_succ_cons]

theorem slice_zero (frame : Bytes) (stop : Nat) : slice frame 0 stop = frame.take stop := rfl

theorem fieldAt_of_le {frame : Bytes} {index size : Nat} (h : index + size ≤ frame.length) :
    fieldAt frame index size = .ok ((frame.drop index).take size) :=
  if_pos h

theorem byteAt_append (front rest : Bytes) (byte : UInt8) :
    byteAt (front ++ byte :: rest) front.length = .ok byte := by
  rw [byteAt, List.getElem?_append_right (Nat.le_refl _), Nat.sub_self]
  rfl

/-! ### One attribute -/

theorem used_le_of_readAttribute {trailer remaining : Bytes} {kind : UInt8}
    {reading : AttributeReading} (h : readAttribute trailer kind remaining = .ok reading) :
    reading.used ≤ remaining.length := by
  obtain ⟨tag, -, hfit, rfl⟩ := exists_read_of_readAttribute h
  exact hfit

namespace Cursor

/-- The window at a kind lies over what remains of the section and, at its end, the trailer. -/
theorem window_append (front remaining trailer : Bytes) (kind : UInt8) (seen : List Attribute) :
    window (front ++ kind :: (remaining ++ trailer)) { index := front.length, attributes := seen } =
      lengthWindow trailer remaining := by
  rw [lengthWindow_eq_take]
  exact slice_append_cons front _ kind 0 TagLength.windowSize

/-- **One round of the cursor is one attribute**: it comes to what reading the attribute from the
rest of the section comes to. -/
theorem step_eq {trailer : Bytes} (htrailer : TagLength.windowSize ≤ trailer.length)
    (front remaining : Bytes) (kind : UInt8) (seen : List Attribute) :
    step (front ++ kind :: (remaining ++ trailer)) (front.length + 1 + remaining.length)
        { index := front.length, attributes := seen } =
      ((readAttribute trailer kind remaining).map fun reading =>
        { index := front.length + 1 + reading.used,
          attributes := seen ++ [reading.value] }).mapError .fault := by
  obtain ⟨tag, htag⟩ := exists_read_lengthWindow htrailer remaining
  rw [step_of_read (byteAt_append front _ kind) ((window_append ..).symm ▸ htag),
    readAttribute_of_read htag]
  simp only
  by_cases hfit : tag.used + tag.length ≤ remaining.length
  · rw [if_neg (by omega), if_neg (Nat.not_lt.mpr hfit), slice_append_cons,
      List.drop_append_of_le_length (by omega),
      List.take_append_of_le_length (by rw [List.length_drop]; omega)]
    simp only [Except.map, Except.mapError, Nat.add_assoc]
  · have hleft : front.length + 1 + remaining.length - (front.length + 1 + tag.used) =
        remaining.length - tag.used := by omega
    rw [if_pos (by omega), if_pos (Nat.not_le.mp hfit), hleft]
    rfl

/-- **The rounds of the cursor are the recursion on what remains of the section.** -/
theorem run_eq {trailer : Bytes} (htrailer : TagLength.windowSize ≤ trailer.length)
    (front body : Bytes) (seen : List Attribute) :
    run (front ++ (body ++ trailer)) (front.length + body.length)
        { index := front.length, attributes := seen } =
      (readAttributes trailer seen.reverse body).mapError .fault := by
  match body with
  | [] =>
    rw [readAttributes_nil, List.reverse_reverse]
    exact run_of_le (Nat.le_refl _)
  | kind :: remaining =>
    have hstop : front.length + (kind :: remaining).length =
        front.length + 1 + remaining.length := by
      rw [List.length_cons, Nat.add_assoc, Nat.add_comm 1]
    have hlt : front.length < front.length + 1 + remaining.length := by omega
    have hstep := step_eq htrailer front remaining kind seen
    rw [hstop, List.cons_append]
    cases hread : readAttribute trailer kind remaining with
    | error fault =>
      rw [hread] at hstep
      rw [run_of_error hlt hstep, readAttributes_cons_of_error _ hread]
      rfl
    | ok reading =>
      rw [hread] at hstep
      have hused := used_le_of_readAttribute hread
      -- What was read goes over to the front.
      have hfront : (front ++ kind :: remaining.take reading.used).length =
          front.length + 1 + reading.used := by
        rw [List.length_append, List.length_cons, List.length_take]
        omega
      have hframe : front ++ kind :: (remaining ++ trailer) =
          (front ++ kind :: remaining.take reading.used) ++
            (remaining.drop reading.used ++ trailer) := by
        rw [List.append_assoc, List.cons_append, ← List.append_assoc (remaining.take _),
          List.take_append_drop]
      have hstop' : front.length + 1 + remaining.length =
          (front ++ kind :: remaining.take reading.used).length +
            (remaining.drop reading.used).length := by
        rw [hfront, List.length_drop]
        omega
      have hrest := run_eq htrailer (front ++ kind :: remaining.take reading.used)
        (remaining.drop reading.used) (seen ++ [reading.value])
      rw [← hframe, ← hstop', hfront, List.reverse_append] at hrest
      rw [run_of_ok hlt hstep, readAttributes_cons_of_ok _ hread]
      exact hrest
termination_by body.length
decreasing_by simp only [List.length_cons, List.length_drop]; omega

end Cursor

/-- A frame is its header, its section and its trailer. -/
theorem header_append_section_append_trailer {frame : Bytes} (hsize : minSize ≤ frame.length) :
    frame.take headerSize ++ (sectionOf frame ++ trailer frame) = frame := by
  have htake : (frame.take (frame.length - checksumSize)).take headerSize =
      frame.take headerSize := by
    rw [minSize] at hsize
    rw [List.take_take, Nat.min_eq_left (by omega)]
  rw [← htake, sectionOf, ← List.append_assoc, List.take_append_drop, trailer,
    List.take_append_drop]

theorem run_section {frame : Bytes} (hsize : minSize ≤ frame.length) :
    Cursor.run frame (frame.length - checksumSize) { index := headerSize, attributes := [] } =
      (readAttributes (trailer frame) [] (sectionOf frame)).mapError .fault := by
  have hfields : headerSize + checksumSize ≤ frame.length := hsize
  have hfront : (frame.take headerSize).length = headerSize := by
    rw [List.length_take]
    omega
  have hstop : headerSize + (sectionOf frame).length = frame.length - checksumSize := by
    rw [length_sectionOf, minSize]
    omega
  have hrun := Cursor.run_eq (windowSize_le_length_trailer hsize) (frame.take headerSize)
    (sectionOf frame) []
  rwa [header_append_section_append_trailer hsize, hfront, hstop] at hrun

end Frame

open TunerWire.Frame

/-- The fields of the header and the checksum lie in a frame that is long enough, so decoding by
position comes to compare them. -/
theorem Packet.decodeAt_of_minSize_le {frame : Bytes} (hsize : minSize ≤ frame.length) :
    Packet.decodeAt frame =
      if carriedChecksum frame ≠ computedChecksum frame then
        .error (.fault (.checksumMismatch (carriedChecksum frame) (computedChecksum frame)))
      else if declaredSection frame ≠ frame.length - minSize then
        .error (.fault (.sectionMismatch (declaredSection frame) (frame.length - minSize)))
      else
        (Cursor.run frame (frame.length - checksumSize)
          { index := headerSize, attributes := [] }).map fun attributes =>
            { type := ofBigEndian (frame.take 2), attributes } := by
  have hfields : headerSize + checksumSize ≤ frame.length := hsize
  rw [headerSize, checksumSize] at hfields
  have hcarried : fieldAt frame (frame.length - checksumSize) checksumSize =
      .ok (trailer frame) := by
    rw [fieldAt_of_le (by rw [checksumSize]; omega), ← trailer,
      List.take_of_length_le (Nat.le_of_eq (length_trailer hsize))]
  have htype : fieldAt frame 0 2 = .ok (frame.take 2) := fieldAt_of_le (by omega)
  have hdeclared : fieldAt frame 2 2 = .ok (sectionField frame) := fieldAt_of_le (by omega)
  simp only [Packet.decodeAt, if_neg (Nat.not_lt.mpr hsize), hcarried, slice_zero, htype, hdeclared,
    bind, Except.bind]
  cases Cursor.run frame (frame.length - checksumSize) { index := headerSize, attributes := [] } <;>
    rfl

/-- **Decoding by position is decoding**: it comes to the same packet or to the same fault, and no
position is outside of the frame. -/
theorem Packet.decodeAt_eq (frame : Bytes) :
    Packet.decodeAt frame = (Packet.decode frame).mapError .fault := by
  by_cases hsize : minSize ≤ frame.length
  · rw [Packet.decodeAt_of_minSize_le hsize]
    by_cases hsum : carriedChecksum frame = computedChecksum frame
    · rw [if_neg (not_not_intro hsum), Packet.decode_of_carried_eq hsize hsum]
      by_cases hsection : declaredSection frame = frame.length - minSize
      · rw [if_neg (not_not_intro hsection), if_neg (not_not_intro hsection), run_section hsize]
        cases readAttributes (trailer frame) [] (sectionOf frame) <;> rfl
      · rw [if_pos hsection, if_pos hsection]
        rfl
    · rw [if_pos hsum, Packet.decode_of_carried_ne hsize hsum]
      rfl
  · have hsmall := Nat.lt_of_not_le hsize
    rw [Packet.decode_of_length_lt hsmall, Packet.decodeAt, if_pos hsmall]
    rfl

end TunerWire

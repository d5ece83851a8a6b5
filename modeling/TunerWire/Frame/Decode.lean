import TunerWire.Frame
import TunerWire.Packet
import TunerWire.TagLength

/-!
# Decoding

From a frame to its packet. The size of the frame is looked at first, then its checksum, then the
section length; only then is an attribute read.

An attribute is read from what remains of the section behind its kind. Its tag length is read
through a window of two bytes. At the end of the section the window reaches into the trailer, the
bytes of the checksum: a length that was spelled with their help is longer than what remains of
the section, so it is refused as an overrun, and what remains counts as zero once the length
itself has run past the end.
-/

namespace TunerWire

open Octets

namespace Frame

/-- An attribute as it was read. -/
structure AttributeReading where
  /-- The attribute. -/
  value : Attribute
  /-- How many bytes behind the kind belong to it. -/
  used : Nat
  deriving DecidableEq, Repr

/-- The window on a tag length: two bytes of what remains of the section, and of the trailer where
the section ends. -/
def lengthWindow (trailer remaining : Bytes) : Bytes :=
  (remaining.take TagLength.windowSize ++ trailer).take TagLength.windowSize

/-- Read the attribute of a kind from the bytes that remain of the section behind its kind. -/
def readAttribute (trailer : Bytes) (kind : UInt8) (remaining : Bytes) :
    Except Fault AttributeReading :=
  match TagLength.read (lengthWindow trailer remaining) with
  | .error fault => .error fault
  | .ok tag =>
    let used := tag.used + tag.length
    let field := remaining.take used
    if field.length < used then
      .error (.attributeOverrun kind tag.length (remaining.length - tag.used))
    else .ok { value := { kind := kind.toNat, payload := field.drop tag.used }, used }

/-- Read the attributes of a section; `seen` holds the attributes before them, last first. -/
def readAttributes (trailer : Bytes) (seen : List Attribute) : Bytes → Except Fault (List Attribute)
  | [] => .ok seen.reverse
  | kind :: remaining =>
    match readAttribute trailer kind remaining with
    | .error fault => .error fault
    | .ok reading => readAttributes trailer (reading.value :: seen) (remaining.drop reading.used)
termination_by body => body.length
decreasing_by simp only [List.length_cons, List.length_drop]; omega

/-- Before a trailer of two bytes or more, the window on a tag length is complete. -/
theorem length_lengthWindow {trailer : Bytes} (h : TagLength.windowSize ≤ trailer.length)
    (remaining : Bytes) : (lengthWindow trailer remaining).length = TagLength.windowSize := by
  rw [lengthWindow, List.length_take, List.length_append]
  omega

theorem readAttributes_nil (trailer : Bytes) (seen : List Attribute) :
    readAttributes trailer seen [] = .ok seen.reverse := by
  rw [readAttributes]

theorem readAttributes_cons_of_error {trailer remaining : Bytes} {kind : UInt8} {fault : Fault}
    (seen : List Attribute) (h : readAttribute trailer kind remaining = .error fault) :
    readAttributes trailer seen (kind :: remaining) = .error fault := by
  rw [readAttributes, h]

theorem readAttributes_cons_of_ok {trailer remaining : Bytes} {kind : UInt8}
    {reading : AttributeReading} (seen : List Attribute)
    (h : readAttribute trailer kind remaining = .ok reading) :
    readAttributes trailer seen (kind :: remaining) =
      readAttributes trailer (reading.value :: seen) (remaining.drop reading.used) := by
  rw [readAttributes, h]

/-- The attributes seen before come out before those that are read. -/
theorem readAttributes_eq_map (trailer : Bytes) (seen : List Attribute) (body : Bytes) :
    readAttributes trailer seen body =
      (readAttributes trailer [] body).map (seen.reverse ++ ·) := by
  match body with
  | [] => simp [readAttributes_nil, Except.map]
  | kind :: remaining =>
    cases h : readAttribute trailer kind remaining with
    | error fault => rw [readAttributes_cons_of_error _ h, readAttributes_cons_of_error _ h]; rfl
    | ok reading =>
      rw [readAttributes_cons_of_ok _ h, readAttributes_cons_of_ok _ h, readAttributes_eq_map,
        readAttributes_eq_map trailer [reading.value]]
      cases readAttributes trailer [] (remaining.drop reading.used) with
      | error fault => rfl
      | ok attributes => simp [Except.map]
termination_by body.length
decreasing_by all_goals simp only [List.length_cons, List.length_drop]; omega

end Frame

/-- The packet of a frame. -/
def Packet.decode (frame : Bytes) : Except Fault Packet :=
  let body := frame.take (frame.length - Frame.checksumSize)
  let trailer := frame.drop (frame.length - Frame.checksumSize)
  let carried := ofLittleEndian trailer
  let computed := (Checksum.crc32 body).toNat
  let declared := ofBigEndian ((body.drop 2).take 2)
  if frame.length < Frame.minSize then .error (.frameTooShort frame.length)
  else if carried ≠ computed then .error (.checksumMismatch carried computed)
  else if declared ≠ frame.length - Frame.minSize then
    .error (.sectionMismatch declared (frame.length - Frame.minSize))
  else
    match Frame.readAttributes trailer [] (body.drop Frame.headerSize) with
    | .error fault => .error fault
    | .ok attributes => .ok { type := ofBigEndian (body.take 2), attributes }

end TunerWire

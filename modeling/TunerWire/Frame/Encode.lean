import TunerWire.Frame
import TunerWire.Packet
import TunerWire.TagLength

/-!
# Encoding

From a packet to its frame, in the shortest spelling. The sizes of all attributes are added up
first, so the bytes of the frame are laid aside once and then filled from the front, through a
cursor. What does not fit is found before the first byte is written: the type, then attribute by
attribute its kind and the length of its payload, then the size of the whole section.

A tag length is written through a window of two bytes at the cursor, also where it takes only
one. The second byte of the window then belongs to what comes next, the payload, the next
attribute or the checksum, and is written after the tag length.
-/

namespace TunerWire

open Octets

/-! ### Sizes -/

namespace Frame

/-- Refuse a number that is not between zero and `max`. -/
def checkRange (fault : Int → Fault) (max : Nat) (z : Int) : Except Fault Unit :=
  if 0 ≤ z ∧ z ≤ max then .ok () else .error (fault z)

/-- The bytes an attribute takes in a frame. -/
def attributeSize (a : Attribute) : Except Fault Nat := do
  checkRange .kindOutOfRange maxKind a.kind
  -- This length is a count of bytes, and the text of its fault can always name it.
  let width ← (TagLength.size a.payload.length).mapError fun _ =>
    .payloadTooLong a.payload.length
  return 1 + width + a.payload.length

/-- The bytes that attributes take in a frame, added to `total`. -/
def addSizes (total : Nat) : List Attribute → Except Fault Nat
  | [] => .ok total
  | a :: rest => do
    let size ← attributeSize a
    addSizes (total + size) rest

/-- The bytes that attributes take in a frame. -/
def sectionSize (attributes : List Attribute) : Except Fault Nat := addSizes 0 attributes

end Frame

/-! ### Filling a frame -/

/-- A frame that is being filled: its bytes, and the index of the next one to be written. -/
structure Draft where
  /-- The bytes, zero where nothing was written yet. -/
  buffer : Array UInt8
  /-- How many bytes from the front are in use. -/
  cursor : Nat

namespace Draft

/-- A frame of `size` bytes with nothing written. -/
def blank (size : Nat) : Draft := { buffer := Array.replicate size 0, cursor := 0 }

/-- Store bytes in a buffer from an index on. -/
def store (buffer : Array UInt8) (index : Nat) : Bytes → Array UInt8
  | [] => buffer
  | b :: bs => store (buffer.setIfInBounds index b) (index + 1) bs

@[simp] theorem size_store (buffer : Array UInt8) (index : Nat) (bytes : Bytes) :
    (store buffer index bytes).size = buffer.size := by
  induction bytes generalizing buffer index with
  | nil => rfl
  | cons b bs ih => rw [store, ih, Array.size_setIfInBounds]

/-- Bytes stored where there is room for them take the place of as many bytes, and no other byte
changes. -/
theorem toList_store {buffer : Array UInt8} {index : Nat} {bytes : Bytes}
    (h : index + bytes.length ≤ buffer.size) :
    (store buffer index bytes).toList =
      buffer.toList.take index ++ bytes ++ buffer.toList.drop (index + bytes.length) := by
  induction bytes generalizing buffer index with
  | nil => simp [store]
  | cons b bs ih =>
    rw [List.length_cons] at h
    have hlt : index < buffer.toList.length := by
      rw [Array.length_toList]
      omega
    have htake : (buffer.toList.set index b).take (index + 1) =
        buffer.toList.take index ++ [b] := by
      rw [List.take_succ_eq_append_getElem (by rwa [List.length_set]), List.getElem_set_self,
        List.take_set_of_le (Nat.le_refl _)]
    rw [store, ih (by rw [Array.size_setIfInBounds]; omega), Array.toList_setIfInBounds, htake,
      List.drop_set_of_lt (by omega), List.append_assoc, List.append_assoc, List.append_assoc,
      List.length_cons, Nat.add_assoc index 1, Nat.add_comm 1, List.singleton_append,
      List.cons_append]

/-- Write bytes at the cursor. -/
def put : Draft → Bytes → Draft
  | { buffer, cursor }, bytes =>
    { buffer := store buffer cursor bytes, cursor := cursor + bytes.length }

/-- The window of two bytes at an index of a buffer. -/
def windowAt (buffer : Array UInt8) (index : Nat) : Window :=
  { buffer, start := index, stop := index + TagLength.windowSize }

/-- Write a tag length at the cursor. -/
def putLength : Draft → Nat → Except Fault Draft
  | { buffer, cursor }, length => do
    let written ← TagLength.write length (windowAt buffer cursor)
    return { buffer := written.buffer, cursor := cursor + written.used }

/-- Write an attribute at the cursor. -/
def putAttribute (draft : Draft) (a : Attribute) : Except Fault Draft := do
  let draft ← (draft.put [UInt8.ofNat a.kind.toNat]).putLength a.payload.length
  return draft.put a.payload

/-- Write attributes at the cursor. -/
def putAttributes (draft : Draft) : List Attribute → Except Fault Draft
  | [] => .ok draft
  | a :: rest => do
    let draft ← draft.putAttribute a
    draft.putAttributes rest

/-- Write the checksum of the bytes before the cursor. -/
def putChecksum (draft : Draft) : Draft :=
  let written := (draft.buffer.extract 0 draft.cursor).toList
  draft.put (littleEndian Frame.checksumSize (Checksum.crc32 written).toNat)

end Draft

/-- The frame of a packet. -/
def Packet.encode (p : Packet) : Except Fault Bytes := do
  Frame.checkRange .typeOutOfRange Frame.maxType p.type
  let size ← Frame.sectionSize p.attributes
  if Frame.maxSection < size then throw (.sectionTooLong size)
  let draft := Draft.blank (Frame.headerSize + size + Frame.checksumSize)
  let draft := (draft.put (bigEndian 2 p.type.toNat)).put (bigEndian 2 size)
  let draft ← draft.putAttributes p.attributes
  return draft.putChecksum.buffer.toList

end TunerWire

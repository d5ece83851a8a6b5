import TunerWire.Checksum

/-!
# Frames

How a packet lies on the wire:

    type             2 bytes, most significant first
    section length   2 bytes, most significant first
    attributes       as many bytes as the section length says
    checksum         4 bytes, least significant first, over all bytes before it

Each attribute is a byte for its kind, a tag length, and as many bytes of payload as the tag
length says.

`ofSection` puts the header before a section and the checksum behind it, whatever the section
holds.
-/

namespace TunerWire.Frame

open Octets

/-! ### Sizes and limits -/

/-- The size of the type and the section length. -/
def headerSize : Nat := 4

/-- The size of the checksum. -/
def checksumSize : Nat := 4

/-- The size of a frame without attributes. -/
def minSize : Nat := headerSize + checksumSize

/-- The most bytes that the attributes of a frame take. -/
def maxSection : Nat := 65535

/-- The greatest packet type. -/
def maxType : Nat := 65535

/-- The greatest attribute kind. -/
def maxKind : Nat := 255

/-! ### The bytes of a frame -/

/-- Bytes with their checksum behind them. -/
def withChecksum (body : Bytes) : Bytes :=
  body ++ littleEndian checksumSize (Checksum.crc32 body).toNat

/-- The header of a frame. -/
def header (type sectionLength : Nat) : Bytes := bigEndian 2 type ++ bigEndian 2 sectionLength

/-- The frame around a section. -/
def ofSection (type : Nat) (body : Bytes) : Bytes := withChecksum (header type body.length ++ body)

end TunerWire.Frame

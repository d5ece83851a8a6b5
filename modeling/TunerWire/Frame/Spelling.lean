import TunerWire.Frame
import TunerWire.Packet

/-!
# Spelling

Which frames stand for which packets, with no word on how a frame is read or made.

A length of up to 127 can be spelled by one byte or by two, so one packet may have many frames.
`Form` is the choice at one attribute, and `attributeBytes` and `sectionBytes` are the bytes that
follow from the choices. `Spells frame packet forms` says that the frame is the packet laid out
with these choices, every number within the bounds of its field.
-/

namespace TunerWire.Frame

/-- How many bytes spell the length of a payload. -/
inductive Form where
  /-- One byte. -/
  | short
  /-- Two bytes. -/
  | long
  deriving DecidableEq, Repr

/-- The form that takes the fewest bytes. -/
def Form.least (length : Nat) : Form := if length ≤ 127 then .short else .long

/-- The lengths a form can spell. -/
def Form.Admits : Form → Nat → Prop
  | .short, length => length ≤ 127
  | .long, length => length ≤ 32767

/-- The bytes of a length in a form. -/
def Form.bytes : Form → Nat → Bytes
  | .short, length => [UInt8.ofNat length]
  | .long, length => [UInt8.ofNat (128 + length % 128), UInt8.ofNat (length / 128)]

/-- An attribute whose kind is in range and whose length the form can spell. -/
def Fits (form : Form) (a : Attribute) : Prop :=
  0 ≤ a.kind ∧ a.kind ≤ 255 ∧ form.Admits a.payload.length

/-- The bytes of an attribute. -/
def attributeBytes (form : Form) (a : Attribute) : Bytes :=
  UInt8.ofNat a.kind.toNat :: (form.bytes a.payload.length ++ a.payload)

/-- The bytes of the attributes of a packet, each with its form. -/
def sectionBytes (attributes : List (Form × Attribute)) : Bytes :=
  attributes.flatMap fun (form, a) => attributeBytes form a

/-- The frame stands for the packet, with these forms for the lengths of its attributes. -/
structure Spells (frame : Bytes) (packet : Packet) (forms : List Form) : Prop where
  /-- There is a form for each attribute. -/
  length_eq : forms.length = packet.attributes.length
  /-- The type takes two bytes. -/
  type_mem : 0 ≤ packet.type ∧ packet.type ≤ 65535
  /-- Each attribute fits its fields. -/
  fits : ∀ form a, (form, a) ∈ forms.zip packet.attributes → Fits form a
  /-- The section length takes two bytes. -/
  section_le : (sectionBytes (forms.zip packet.attributes)).length ≤ 65535
  /-- The frame is laid out so. -/
  frame_eq : frame = ofSection packet.type.toNat (sectionBytes (forms.zip packet.attributes))

end TunerWire.Frame

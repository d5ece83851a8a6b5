import TunerWire.Text.Hex

/-!
# Packets

A control message to or from a tuner: a packet type, and attributes in an order that matters. An
attribute has a kind and a payload of bytes.

Types and kinds are integers of any size and sign. Nothing is checked when a packet is put
together; what fits into a frame is decided when the packet is encoded.

`Packet.text` shows a packet in one line, with the type in at least four hexadecimal places, the
kinds in at least two, and the payloads as bytes with spaces between them.
-/

namespace TunerWire

open Text

/-- One attribute of a packet. -/
structure Attribute where
  /-- What the attribute is about. -/
  kind : Int
  /-- What it says. -/
  payload : Bytes := []
  deriving DecidableEq, Repr

/-- A control message. -/
structure Packet where
  /-- What the message is. -/
  type : Int := 0
  /-- Its attributes in the order of the message. -/
  attributes : List Attribute := []
  deriving DecidableEq, Repr

/-- The bytes of a payload in one line, or a word where there are none. -/
def Attribute.payloadText (a : Attribute) : List Char :=
  if a.payload = [] then "(empty)".toList else Hex.spaced a.payload

/-- An attribute in one line. -/
def Attribute.text (a : Attribute) : List Char :=
  "AttributeBlock(kind=0x".toList ++ paddedHex 2 a.kind ++ ", payload=".toList ++ a.payloadText ++
    [')']

/-- A packet in one line. -/
def Packet.text (p : Packet) : List Char :=
  "Packet(type=0x".toList ++ paddedHex 4 p.type ++ ", attributes=[".toList ++
    ", ".toList.intercalate (p.attributes.map Attribute.text) ++ "])".toList

end TunerWire

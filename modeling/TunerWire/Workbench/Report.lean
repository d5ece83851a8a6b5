import TunerWire.Json.Writer
import TunerWire.Workbench.Tools

/-!
# Reports

The values that the workbench hands out: packets and attributes as objects with their payloads in
hexadecimal, the answers of the tools, and a description of a frame's layout with the limits of
the format.
-/

namespace TunerWire

open Text Workbench

/-- Characters as a value. -/
def Json.ofChars (chars : List Char) : Json := .string (String.ofList chars)

/-- An attribute as a value. -/
def Attribute.toJson (a : Attribute) : Json :=
  .object [("kind", .int a.kind), ("payload", .ofChars (Hex.plain a.payload))]

/-- The members of a packet's value. -/
def Packet.members (p : Packet) : List (String × Json) :=
  [("type", .int p.type), ("attributes", .list (p.attributes.map Attribute.toJson))]

/-- A packet as a value. -/
def Packet.toJson (p : Packet) : Json := .object p.members

namespace Workbench

/-- An answer as a value. -/
def Answer.toJson {α : Type} (f : α → Json) : Answer α → Json
  | .result value => f value
  | .report errorClass message =>
    .object [("error", .string message), ("error_type", .string errorClass.name)]

/-- A frame that was built, as a value. -/
def BuiltFrame.toJson (built : BuiltFrame) : Json :=
  .object [("frame", .ofChars built.text), ("length", .int built.length)]

/-- A frame that was taken apart, as a value. -/
def ParsedFrame.toJson (parsed : ParsedFrame) : Json :=
  .object (parsed.packet.members ++
    [("checksum", .ofChars parsed.checksum), ("length", .int parsed.length)])

/-- A tag length that was encoded, as a value. -/
def EncodedLength.toJson (encoded : EncodedLength) : Json :=
  .object [("bytes", .ofChars encoded.text), ("consumed", .int encoded.used)]

/-- A tag length that was decoded, as a value. -/
def readingToJson (reading : TagLength.Reading) : Json :=
  .object [("length", .int reading.length), ("consumed", .int reading.used)]

/-- The layout of a frame and the limits of the format. -/
def layout : Json :=
  .object
    [("fields", .list
      [.object [("name", .string "type"), ("offset", .int 0), ("size", .int 2),
        ("byte_order", .string "big")],
       .object [("name", .string "section_length"), ("offset", .int 2), ("size", .int 2),
        ("byte_order", .string "big")],
       .object [("name", .string "attributes"), ("offset", .int Frame.headerSize),
        ("size", .string "section_length")],
       .object [("name", .string "crc32"), ("offset", .string "4 + section_length"),
        ("size", .int Frame.checksumSize), ("byte_order", .string "little")]]),
     ("attribute", .list
      [.string "kind (1 byte)", .string "length (1-2 bytes)", .string "payload"]),
     ("min_frame_size", .int Frame.minSize),
     ("max_tag_length", .int TagLength.maxLong)]

/-- The version of the workbench. -/
def version : String := "0.1.0"

/-- The text of the layout. -/
def layoutText : String := layout.toText .spaced

end Workbench

end TunerWire

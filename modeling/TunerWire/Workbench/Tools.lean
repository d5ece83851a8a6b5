import TunerWire.Frame.Decode
import TunerWire.Frame.Encode
import TunerWire.Workbench.Entry

/-!
# Tools

The tools of the workbench: a frame from a type and a list of entries, a packet from the text of a
frame, and both directions of a tag length.

A tool answers with its result, or with a report on the failure: its class and its text. Not every
failure is reported. Building a frame reports failures of the key, type and value classes, and
the other tools those of the value class. A failure of another class ends the tool.
-/

namespace TunerWire.Workbench

open Text

/-- What a tool answers. -/
inductive Answer (α : Type) where
  /-- The tool did its work. -/
  | result (value : α)
  /-- The tool failed, and says how. -/
  | report (errorClass : ErrorClass) (message : String)
  deriving DecidableEq, Repr

/-- Report the failures of some classes. -/
def reporting {α : Type} (classes : List ErrorClass) (outcome : Except Failure α) :
    Except Failure (Answer α) :=
  match outcome with
  | .ok value => .ok (.result value)
  | .error failure =>
    if classes.any failure.errorClass.isA then
      .ok (.report failure.errorClass failure.message)
    else .error failure

/-- A frame that was built. -/
structure BuiltFrame where
  /-- Its bytes, with spaces between them. -/
  text : List Char
  /-- How many there are. -/
  length : Nat
  deriving DecidableEq, Repr

/-- Build a frame from a type and a value that lists entries. -/
def buildFrame (type : Int) (entries : Json) : Except Failure (Answer BuiltFrame) :=
  reporting [.key, .type, .value] do
    let attributes ← attributesOf entries
    let frame ← ofCodec (Packet.encode { type, attributes })
    return { text := Hex.spaced frame, length := frame.length }

/-- A frame that was taken apart. -/
structure ParsedFrame where
  /-- What it says. -/
  packet : Packet
  /-- The bytes of its checksum, in the order of the frame. -/
  checksum : List Char
  /-- How many bytes it has. -/
  length : Nat
  deriving DecidableEq, Repr

/-- Take apart a frame that is given as text. -/
def parseFrame (text : String) : Except Failure (Answer ParsedFrame) :=
  reporting [.value] do
    let frame ← bytesOf text
    let packet ← ofCodec (Packet.decode frame)
    let checksum := Hex.plain (frame.drop (frame.length - Frame.checksumSize))
    return { packet, checksum, length := frame.length }

/-- A tag length that was encoded. -/
structure EncodedLength where
  /-- The bytes it takes, with spaces between them. -/
  text : List Char
  /-- How many there are. -/
  used : Nat
  deriving DecidableEq, Repr

/-- Encode a tag length. -/
def encodeTagLength (length : Int) : Except Failure (Answer EncodedLength) :=
  reporting [.value] do
    let window := Window.whole (List.replicate TagLength.windowSize 0) .writable
    let written ← ofCodec (TagLength.write length window)
    return { text := Hex.spaced (written.buffer.toList.take written.used), used := written.used }

/-- Decode a tag length that is given as text. -/
def decodeTagLength (text : String) : Except Failure (Answer TagLength.Reading) :=
  reporting [.value] do
    let window ← bytesOf text
    ofCodec (TagLength.read window)

end TunerWire.Workbench

import TunerWire.ErrorClass
import TunerWire.Text.Numeral

/-!
# Faults

What can be wrong with a packet that is to be encoded, with a frame that is to be decoded, and
with the window that a length field is read from or written to. A `Fault` is a cause with the
numbers that belong to it; its class and its text are functions of the cause.

A size or a count is that of bytes in memory, and few digits write it. A length, a type or a kind
that was asked for is an integer of any size and sign. Where it has more digits than are written, no
text can name it: the text of the fault then says that there are too many digits, and the fault is a
value error like any other and none of the codec (`naming`, `classNaming`).

The numbers of a checksum fault are integers of any size and sign, as a fault can also be made by
hand. In the text they take at least eight hexadecimal digits, and as many as they need.
-/

namespace TunerWire

open Text

/-- How the bytes of a buffer may be used. -/
inductive Access where
  /-- Read and written. -/
  | writable
  /-- A byte string, whose bytes stay what they are. -/
  | constant
  /-- A view that shows the bytes of a buffer and does not change them. -/
  | readOnlyView
  deriving DecidableEq, Repr

/-- A cause of failure of the codec. -/
inductive Fault where
  /-- A frame of `size` bytes has no room for a header and a checksum. -/
  | frameTooShort (size : Nat)
  /-- The checksum a frame carries is not the one computed from its bytes. -/
  | checksumMismatch (carried computed : Int)
  /-- The header declares a section of another size than the frame carries. -/
  | sectionMismatch (declared carried : Nat)
  /-- A block declares a longer payload than what remains of the section. -/
  | attributeOverrun (kind : UInt8) (declared remaining : Nat)
  /-- A length below zero. -/
  | lengthNegative (length : Int)
  /-- A length that two bytes cannot express. -/
  | lengthTooLarge (length : Int)
  /-- A payload of so many bytes that two bytes cannot express its length. -/
  | payloadTooLong (size : Nat)
  /-- The blocks take more bytes than the header can declare. -/
  | sectionTooLong (size : Nat)
  /-- A length field on a window of another size than two. -/
  | windowSize (size : Nat)
  /-- A packet type that two bytes cannot hold. -/
  | typeOutOfRange (type : Int)
  /-- An attribute kind that one byte cannot hold. -/
  | kindOutOfRange (kind : Int)
  /-- A write to bytes that may not be written. -/
  | notWritable (access : Access)
  deriving DecidableEq, Repr

namespace Fault

/-- The class of a fault whose text names an integer: it is only a value error where the integer
cannot be written. -/
def classNaming (z : Int) (errorClass : ErrorClass) : ErrorClass :=
  if (Numeral.write? z).isSome then errorClass else .value

/-- The class of a fault. -/
def errorClass : Fault → ErrorClass
  | .frameTooShort _ | .sectionMismatch .. | .attributeOverrun .. => .truncatedInput
  | .checksumMismatch .. => .invalidChecksum
  | .lengthNegative length | .lengthTooLarge length => classNaming length .lengthEncoding
  | .payloadTooLong _ | .sectionTooLong _ => .lengthEncoding
  | .windowSize _ => .invalidLengthBuffer
  | .typeOutOfRange _ | .kindOutOfRange _ => .value
  | .notWritable _ => .type

/-- A number in a text, in hexadecimal of at least `width` places. -/
def hexText (width : Nat) (z : Int) : String := "0x" ++ String.ofList (paddedHex width z)

/-- A text that names an integer between `before` and `after`, or says that the integer cannot be
written. -/
def naming (before : String) (z : Int) (after : String) : String :=
  match Numeral.write? z with
  | some numeral => before ++ numeral ++ after
  | none => Numeral.limitText ""

/-- What is said of a length that two bytes cannot express, behind the length. -/
def beyondMaximum : String := " exceeds the supported maximum of 32767"

/-- The text of a fault. -/
def message : Fault → String
  | .frameTooShort size => "Frame must be at least 8 bytes, got " ++ decimal size
  | .checksumMismatch carried computed =>
    "invalid CRC32 checksum: frame carries " ++ hexText 8 carried ++ ", computed " ++
      hexText 8 computed
  | .sectionMismatch declared carried =>
    "Attribute section declares " ++ decimal declared ++ " bytes, frame carries " ++
      decimal carried
  | .attributeOverrun kind declared remaining =>
    "Attribute " ++ hexText 2 kind.toNat ++ " declares " ++ decimal declared ++ " bytes, " ++
      decimal remaining ++ " remain"
  | .lengthNegative length => naming "tag length must be non-negative, got " length ""
  | .lengthTooLarge length => naming "tag length " length beyondMaximum
  | .payloadTooLong size => "tag length " ++ decimal size ++ beyondMaximum
  | .sectionTooLong size =>
    "Attribute section is " ++ decimal size ++ " bytes, maximum is 65535"
  | .windowSize size => "tag length window must be exactly 2 bytes, got " ++ decimal size
  | .typeOutOfRange type => naming "Packet type must be 0-65535, got " type ""
  | .kindOutOfRange kind => naming "Attribute kind must be 0-255, got " kind ""
  | .notWritable .readOnlyView => "cannot modify read-only memory"
  | .notWritable _ => "\x27bytes\x27 object does not support item assignment"

end Fault

end TunerWire

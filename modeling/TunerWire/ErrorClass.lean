/-!
# Error classes

Failures come in classes, and each class has a name that a report gives beside the text. The four
classes of the codec are codec errors, and every codec error is a value error: to accept a class
is to accept the classes below it.
-/

namespace TunerWire

/-- A class of failures. -/
inductive ErrorClass where
  /-- A frame is too short, or a length in it disagrees with the bytes present. -/
  | truncatedInput
  /-- The checksum behind a frame is not the checksum of the frame. -/
  | invalidChecksum
  /-- A length does not fit its field. -/
  | lengthEncoding
  /-- A length field is asked for on a window that is not two bytes. -/
  | invalidLengthBuffer
  /-- Any failure of the codec. -/
  | codec
  /-- A value that is out of range or cannot be read. -/
  | value
  /-- A value of a kind that has no meaning where it stands. -/
  | type
  /-- A field that is required and absent. -/
  | key
  /-- A number beyond what can be held. -/
  | overflow
  /-- More bytes than there is memory for. -/
  | memory
  deriving DecidableEq, Repr

namespace ErrorClass

/-- The name of a class in a report. -/
def name : ErrorClass → String
  | .truncatedInput => "TruncatedInputError"
  | .invalidChecksum => "InvalidChecksumError"
  | .lengthEncoding => "LengthEncodingError"
  | .invalidLengthBuffer => "InvalidLengthBufferError"
  | .codec => "CodecError"
  | .value => "ValueError"
  | .type => "TypeError"
  | .key => "KeyError"
  | .overflow => "OverflowError"
  | .memory => "MemoryError"

/-- A class and the classes it lies in, the narrowest first. -/
def lineage : ErrorClass → List ErrorClass
  | .truncatedInput => [.truncatedInput, .codec, .value]
  | .invalidChecksum => [.invalidChecksum, .codec, .value]
  | .lengthEncoding => [.lengthEncoding, .codec, .value]
  | .invalidLengthBuffer => [.invalidLengthBuffer, .codec, .value]
  | .codec => [.codec, .value]
  | c => [c]

/-- Whether a failure of class `c` is one of class `d`. -/
def isA (c d : ErrorClass) : Bool := d ∈ c.lineage

end ErrorClass

end TunerWire

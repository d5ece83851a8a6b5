import TunerWire.Fault
import TunerWire.Json
import TunerWire.Text.Quoted

/-!
# Failures

What can be wrong with what is handed to the workbench: besides a fault of the codec, a list of
entries that is no list, an entry without a kind or with one that is no number, a payload that is
no hexadecimal text, and a value that is no string of bytes. Like a fault, a `Failure` is a
cause, and its class and its text are functions of the cause.
-/

namespace TunerWire

open Text

/-- The name of a shape in a text. -/
def Json.Shape.name : Json.Shape → String
  | .null => "NoneType"
  | .bool => "bool"
  | .int => "int"
  | .real => "float"
  | .string => "str"
  | .list => "list"
  | .object => "dict"

namespace Workbench

/-- A cause of failure of the workbench. -/
inductive Failure where
  /-- A fault of the codec. -/
  | fault (cause : Fault)
  /-- A value that holds no entries, where entries have to be. -/
  | noEntries (shape : Json.Shape)
  /-- A value that has no fields, where an entry has to be. -/
  | noFields (shape : Json.Shape)
  /-- An entry without a kind. -/
  | kindAbsent
  /-- A kind of a shape that is no number. -/
  | kindShape (shape : Json.Shape)
  /-- A kind that is a string and no numeral. -/
  | kindText (text : List Char)
  /-- A kind that is a numeral of too many digits. -/
  | kindTooLong (digits : Nat)
  /-- A kind that is infinite. -/
  | kindInfinite
  /-- A kind that is a double and not a number. -/
  | kindNotNumber
  /-- A payload of a shape that is no string. -/
  | payloadShape (shape : Json.Shape)
  /-- A string that is no hexadecimal text, with the position that is wrong. -/
  | hexText (position : Nat)
  /-- A count of bytes below zero. -/
  | countNegative
  /-- A count of bytes that a signed word of 64 bits does not hold. -/
  | countTooLarge
  /-- A count of bytes that such a word holds, but not with what a byte string takes besides. -/
  | stringTooLarge
  /-- A count of bytes for which there is no memory. -/
  | outOfMemory
  /-- A number that is no byte, in a list of bytes. -/
  | itemOutOfRange
  /-- A value of a shape that is no number, in a list of bytes. -/
  | itemShape (shape : Json.Shape)
  /-- A string, where bytes have to be. -/
  | textForBytes
  /-- A value of another shape that stands for no bytes. -/
  | bytesShape (shape : Json.Shape)
  deriving DecidableEq, Repr

namespace Failure

/-- The class of a failure. -/
def errorClass : Failure → ErrorClass
  | .fault cause => cause.errorClass
  | .kindAbsent => .key
  | .noEntries _ | .noFields _ | .kindShape _ | .payloadShape _ | .itemShape _ | .textForBytes
  | .bytesShape _ => .type
  | .kindInfinite | .countTooLarge | .stringTooLarge => .overflow
  | .outOfMemory => .memory
  | .kindText _ | .kindTooLong _ | .kindNotNumber | .hexText _ | .countNegative
  | .itemOutOfRange => .value

/-- How much of a quoted text is shown. -/
def shownChars : Nat := 200

/-- The text of a failure. -/
def message : Failure → String
  | .fault cause => cause.message
  | .noEntries shape => "\x27" ++ shape.name ++ "\x27 object is not iterable"
  | .noFields .string => "string indices must be integers, not \x27str\x27"
  | .noFields .list => "list indices must be integers or slices, not str"
  | .noFields shape => "\x27" ++ shape.name ++ "\x27 object is not subscriptable"
  | .kindAbsent => "\x27kind\x27"
  | .kindShape shape =>
    "int() argument must be a string, a bytes-like object or a real number, not \x27" ++
      shape.name ++ "\x27"
  | .kindText text =>
    "invalid literal for int() with base 10: " ++ String.ofList ((quoted text).take shownChars)
  | .kindTooLong digits => Numeral.limitText (": value has " ++ decimal digits ++ " digits")
  | .kindInfinite => "cannot convert float infinity to integer"
  | .kindNotNumber => "cannot convert float NaN to integer"
  | .payloadShape .null => "fromhex() argument must be str, not None"
  | .payloadShape shape => "fromhex() argument must be str, not " ++ shape.name
  | .hexText position =>
    "non-hexadecimal number found in fromhex() arg at position " ++ decimal position
  | .countNegative => "negative count"
  | .countTooLarge => "cannot fit \x27int\x27 into an index-sized integer"
  | .stringTooLarge => "byte string is too large"
  | .outOfMemory => ""
  | .itemOutOfRange => "bytes must be in range(0, 256)"
  | .itemShape shape =>
    "\x27" ++ shape.name ++ "\x27 object cannot be interpreted as an integer"
  | .textForBytes => "string argument without an encoding"
  | .bytesShape shape => "cannot convert \x27" ++ shape.name ++ "\x27 object to bytes"

end Failure

/-- What comes of a computation of the codec, its faults taken as failures. -/
def ofCodec {α : Type} (outcome : Except Fault α) : Except Failure α :=
  outcome.mapError .fault

end Workbench

end TunerWire

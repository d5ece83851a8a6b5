import TunerWire.Octets
import TunerWire.Text.Blank
import TunerWire.Text.Digits

/-!
# Hexadecimal text

Bytes as text. Writing gives each byte two lower case digits, either one byte after the other or
with a space between bytes. Reading takes digits of either case, and blanks before, between and
after the pairs of digits, but none inside a pair.

`Spells text bytes` says which texts stand for which bytes, without a word on how they are read.
A text that stands for none is refused at a position, counted in characters. Beyond ASCII nothing
is read at all: the first such character is the position, whatever else is wrong. Else it is the
first character that is no digit where a digit has to be, and the end of the text counts as one.
-/

namespace TunerWire.Text.Hex

/-! ### Writing -/

/-- The two digits of a byte. -/
def pair (byte : UInt8) : List Char :=
  [digitChar 'a' (byte.toNat / 16), digitChar 'a' (byte.toNat % 16)]

/-- Bytes without anything between them. -/
def plain (bytes : Bytes) : List Char := bytes.flatMap pair

/-- Bytes with a space between each two of them. -/
def spaced (bytes : Bytes) : List Char := [' '].intercalate (bytes.map pair)

/-! ### What a text spells -/

/-- The value of a hexadecimal digit of either case. -/
def digit? (c : Char) : Option Nat :=
  if '0' ≤ c ∧ c ≤ '9' then some (c.toNat - '0'.toNat)
  else if 'a' ≤ c ∧ c ≤ 'f' then some (c.toNat - 'a'.toNat + 10)
  else if 'A' ≤ c ∧ c ≤ 'F' then some (c.toNat - 'A'.toNat + 10)
  else none

/-- The text stands for the bytes. -/
inductive Spells : List Char → Bytes → Prop where
  /-- The empty text stands for no bytes. -/
  | nil : Spells [] []
  /-- A blank stands for nothing. -/
  | blank {c : Char} {text : List Char} {bytes : Bytes} :
      isAsciiBlank c → Spells text bytes → Spells (c :: text) bytes
  /-- Two digits stand for a byte. -/
  | pair {c d : Char} {high low : Nat} {text : List Char} {bytes : Bytes} :
      digit? c = some high → digit? d = some low → Spells text bytes →
        Spells (c :: d :: text) (UInt8.ofNat (16 * high + low) :: bytes)

/-! ### Reading -/

/-- Read the pairs of a text that begins at `position`; `seen` holds the bytes before it, last
first. -/
def readPairs (position : Nat) (seen : Bytes) : List Char → Except Nat Bytes
  | [] => .ok seen.reverse
  | c :: text =>
    if isAsciiBlank c then readPairs (position + 1) seen text
    else
      match digit? c, text with
      | none, _ => .error position
      | some _, [] => .error (position + 1)
      | some high, d :: text =>
        match digit? d with
        | none => .error (position + 1)
        | some low => readPairs (position + 2) (UInt8.ofNat (16 * high + low) :: seen) text

/-- The bytes a text stands for, or the position at which it fails. -/
def read (text : List Char) : Except Nat Bytes :=
  match text.findIdx? (fun c => 127 < c.toNat) with
  | some position => .error position
  | none => readPairs 0 [] text

end TunerWire.Text.Hex

import TunerWire.Octets

/-!
# Checksum

The cyclic redundancy check that closes a frame: the 32 bit check of IEEE 802.3 in its reflected
form. A register of 32 bits takes the message in, bit by bit, the bytes in order and each from its
least significant bit. The register starts with every bit set and is complemented at the end.

Bit `k` of the register stands for the power `31 - k` of `x`, so a shift to the right multiplies
by `x`, and the bit that leaves the register is reduced by adding the polynomial below the power
32.
-/

namespace TunerWire.Checksum

/-- The polynomial
`x^32+x^26+x^23+x^22+x^16+x^12+x^11+x^10+x^8+x^7+x^5+x^4+x^2+x+1` below its leading power, the bit
of `x^31` lowest. -/
def polynomial : BitVec 32 := 0xEDB88320#32

/-- The register when one more message bit has gone in. -/
def pushBit (register : BitVec 32) (bit : Bool) : BitVec 32 :=
  if register.getLsbD 0 != bit then (register >>> 1) ^^^ polynomial else register >>> 1

/-- The bits of a byte in the order they are sent, least significant first. -/
def bitsOf (byte : UInt8) : List Bool :=
  (List.range 8).map byte.toBitVec.getLsbD

/-- The register when one more byte has gone in. -/
def pushByte (register : BitVec 32) (byte : UInt8) : BitVec 32 :=
  (bitsOf byte).foldl pushBit register

/-- The register after a whole message, from any start. -/
def pushBytes (register : BitVec 32) (message : Bytes) : BitVec 32 :=
  message.foldl pushByte register

/-- The checksum of a message. -/
def crc32 (message : Bytes) : BitVec 32 :=
  ~~~ pushBytes (BitVec.allOnes 32) message

theorem pushBytes_append (register : BitVec 32) (a b : Bytes) :
    pushBytes register (a ++ b) = pushBytes (pushBytes register a) b :=
  List.foldl_append

/-- A message goes into the register bit by bit. -/
theorem pushBytes_eq_foldl_bits (register : BitVec 32) (message : Bytes) :
    pushBytes register message = (message.flatMap bitsOf).foldl pushBit register := by
  rw [List.foldl_flatMap]
  rfl

end TunerWire.Checksum

import TunerWire.Fault
import TunerWire.Octets

/-!
# Windows

A window is a stretch of a buffer, from `start` up to `stop`, that is read or written in its
place in the buffer. A stretch that reaches past the end of the buffer is clipped to it: only the
bytes that are there belong to the window.
-/

namespace TunerWire

/-- The bytes of `buffer` from index `start` up to `stop`, as far as the buffer goes. -/
structure Window where
  /-- The whole buffer. -/
  buffer : Array UInt8
  /-- The index of the first byte. -/
  start : Nat
  /-- The index behind the last byte. -/
  stop : Nat
  /-- How the bytes may be used. -/
  access : Access := .writable

namespace Window

/-- A window onto the whole of a byte string. -/
def whole (bytes : Bytes) (access : Access) : Window :=
  { buffer := bytes.toArray, start := 0, stop := bytes.length, access }

/-- The count of bytes in the window. -/
def size (w : Window) : Nat := min w.stop w.buffer.size - w.start

/-- The bytes in the window. -/
def bytes (w : Window) : Bytes := (w.buffer.extract w.start w.stop).toList

/-- Replace byte `i` of the window. -/
def set (w : Window) (i : Nat) (byte : UInt8) : Window :=
  { w with buffer := w.buffer.setIfInBounds (w.start + i) byte }

@[simp] theorem length_bytes (w : Window) : w.bytes.length = w.size := by
  simp only [bytes, size, Array.length_toList, Array.size_extract]

@[simp] theorem size_set (w : Window) (i : Nat) (byte : UInt8) : (w.set i byte).size = w.size := by
  simp [set, size]

end Window

end TunerWire

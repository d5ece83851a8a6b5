import TunerWire.Packet
import TunerWire.Workbench.Failure

/-!
# Payloads

A payload may be given as any value that stands for bytes: a number for as many zero bytes, an
array for its items, an object for the list of its names. Truth values count as zero and one. The
items of an array are looked at in order, and the first one that is no byte is reported.

A count that a signed word of 64 bits does not hold is refused before its sign is looked at. A
count so close to the greatest word that the whole byte string would be beyond it is refused next,
and then one beyond the memory; how many bytes there is memory for is given. Names are strings and
stand for no byte, so an object has to be empty.

A list of numbers below 256 stands for the bytes of these numbers, and no other list of numbers
stands for any (`payloadBytes_ints_eq_ok_iff`).
-/

namespace TunerWire.Workbench

/-- The greatest number that a signed word of 64 bits holds. -/
def maxWord : Int := 9223372036854775807

/-- How many bytes a byte string takes besides those in it. -/
def stringOverhead : Int := 33

/-- As many zero bytes as a number says, in a memory of so many bytes. -/
def zeroBytes (memory count : Int) : Except Failure Bytes :=
  if count < -maxWord - 1 ∨ maxWord < count then .error .countTooLarge
  else if count < 0 then .error .countNegative
  else if maxWord < count + stringOverhead then .error .stringTooLarge
  else if memory < count then .error .outOfMemory
  else .ok (List.replicate count.toNat 0)

/-- The byte of a number. -/
def itemByte (z : Int) : Except Failure UInt8 :=
  if 0 ≤ z ∧ z < 256 then .ok (UInt8.ofNat z.toNat) else .error .itemOutOfRange

/-- The byte that an item of an array stands for. -/
def itemOf : Json → Except Failure UInt8
  | .int value => itemByte value
  | .bool value => .ok (if value then 1 else 0)
  | v => .error (.itemShape v.shape)

/-- The bytes that the items of an array stand for; `seen` holds those before them, last first. -/
def itemsOf (seen : Bytes) : List Json → Except Failure Bytes
  | [] => .ok seen.reverse
  | v :: rest => do
    let byte ← itemOf v
    itemsOf (byte :: seen) rest

/-- The bytes that a value stands for. -/
def payloadBytes (memory : Int) : Json → Except Failure Bytes
  | .int count => zeroBytes memory count
  | .bool value => zeroBytes memory (if value then 1 else 0)
  | .list items => itemsOf [] items
  | .object members => itemsOf [] (members.map fun (name, _) => .string name)
  | .string _ => .error .textForBytes
  | v => .error (.bytesShape v.shape)

/-- An attribute whose payload is given by a value. -/
def attributeWith (memory kind : Int) (payload : Json) : Except Failure Attribute := do
  let payload ← payloadBytes memory payload
  return { kind, payload }

/-! ### Lists of numbers -/

theorem itemByte_eq_ok_iff {z : Int} {byte : UInt8} :
    itemByte z = .ok byte ↔ z = byte.toNat := by
  have hbyte := byte.toNat_lt
  rw [itemByte]
  split
  · next h =>
    rw [Except.ok.injEq, ← UInt8.toNat_inj, UInt8.toNat_ofNat']
    omega
  · next h =>
    constructor
    · intro herror
      cases herror
    · omega

/-- The bytes behind those that were seen are those of the numbers, one by one. -/
theorem itemsOf_ints_eq_ok_iff {seen bytes : Bytes} {numbers : List Int} :
    itemsOf seen (numbers.map .int) = .ok bytes ↔
      ∃ read : Bytes, bytes = seen.reverse ++ read ∧
        numbers = read.map fun byte => (byte.toNat : Int) := by
  induction numbers generalizing seen with
  | nil =>
    rw [List.map_nil, itemsOf, Except.ok.injEq]
    constructor
    · rintro rfl
      exact ⟨[], (List.append_nil _).symm, rfl⟩
    · rintro ⟨read, rfl, hread⟩
      rw [List.map_eq_nil_iff.mp hread.symm, List.append_nil]
  | cons z rest ih =>
    simp only [List.map_cons, itemsOf, itemOf]
    cases hz : itemByte z with
    | error failure =>
      constructor
      · intro h
        cases h
      · rintro ⟨read, -, hread⟩
        obtain ⟨byte, read, rfl, hbyte, -⟩ := List.map_eq_cons_iff.mp hread.symm
        cases hz.symm.trans (itemByte_eq_ok_iff.mpr hbyte.symm)
    | ok byte =>
      obtain rfl := itemByte_eq_ok_iff.mp hz
      refine ih.trans ⟨?_, ?_⟩
      · rintro ⟨read, rfl, rfl⟩
        exact ⟨byte :: read, by simp, rfl⟩
      · rintro ⟨read, rfl, hread⟩
        obtain ⟨byte', read, rfl, hbyte, hrest⟩ := List.map_eq_cons_iff.mp hread.symm
        obtain rfl := UInt8.toNat_inj.mp (Int.ofNat.inj hbyte)
        exact ⟨read, by simp, hrest.symm⟩

/-- **A list of numbers as a payload.** It stands for bytes exactly if its numbers are these bytes,
whatever the memory. -/
theorem payloadBytes_ints_eq_ok_iff {memory : Int} {numbers : List Int} {bytes : Bytes} :
    payloadBytes memory (.list (numbers.map .int)) = .ok bytes ↔
      numbers = bytes.map fun byte => (byte.toNat : Int) := by
  rw [payloadBytes, itemsOf_ints_eq_ok_iff]
  simp

end TunerWire.Workbench

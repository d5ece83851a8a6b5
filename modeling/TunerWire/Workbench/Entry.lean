import TunerWire.Packet
import TunerWire.Text.Numeral
import TunerWire.Workbench.Failure

/-!
# Entries

Attributes as they are written down by hand: JSON values, each an object with a `kind` and, if
there is one, a `payload` in hexadecimal.

A kind is a number in a wide sense. A truth value counts as zero or one, a number with a fraction
as its integer part toward zero, and a string as the numeral it spells. Infinity and what is not a
number stand for no kind. A payload that is absent is empty.

Entries are converted in their order, in each the kind before the payload, so the first thing
that is wrong is what is reported.
-/

namespace TunerWire.Workbench

open Text

/-- The entries in a value: none in one that says nothing, the items of an array, the characters
of a string and the names in an object. -/
def entriesOf (v : Json) : Except Failure (List Json) :=
  if v.isVoid then .ok []
  else
    match v with
    | .list items => .ok items
    | .string s => .ok (s.toList.map fun c => .string (String.singleton c))
    | .object members => .ok (members.map fun (name, _) => .string name)
    | v => .error (.noEntries v.shape)

/-- The integer that a value stands for. -/
def integerOf : Json → Except Failure Int
  | .bool value => .ok (if value then 1 else 0)
  | .int value => .ok value
  | .real (.finite negative significand exponent) =>
    .ok (Double.integerPart negative significand exponent)
  | .real (.infinite _) => .error .kindInfinite
  | .real .notNumber => .error .kindNotNumber
  | .string s =>
    match Numeral.read s.toList with
    | .ok z => .ok z
    | .error .malformed => .error (.kindText s.toList)
    | .error (.tooLong digits) => .error (.kindTooLong digits)
  | v => .error (.kindShape v.shape)

/-- The bytes that a hexadecimal text stands for. -/
def bytesOf (text : String) : Except Failure Bytes :=
  (Hex.read text.toList).mapError .hexText

/-- The kind of an entry. -/
def kindOf : Json → Except Failure Int
  | .object members =>
    match Json.lookup "kind" members with
    | some v => integerOf v
    | none => .error .kindAbsent
  | v => .error (.noFields v.shape)

/-- The payload of an entry. -/
def payloadOf (entry : Json) : Except Failure Bytes :=
  match entry.get? "payload" with
  | none => .ok []
  | some (.string text) => bytesOf text
  | some v => .error (.payloadShape v.shape)

/-- The attribute of an entry. -/
def attributeOf (entry : Json) : Except Failure Attribute := do
  let kind ← kindOf entry
  let payload ← payloadOf entry
  return { kind, payload }

/-- The attributes of entries; `seen` holds those of the entries before them, last first. -/
def convertEntries (seen : List Attribute) : List Json → Except Failure (List Attribute)
  | [] => .ok seen.reverse
  | entry :: rest => do
    let a ← attributeOf entry
    convertEntries (a :: seen) rest

/-- The attributes that a value lists. -/
def attributesOf (v : Json) : Except Failure (List Attribute) := do
  let entries ← entriesOf v
  convertEntries [] entries

end TunerWire.Workbench

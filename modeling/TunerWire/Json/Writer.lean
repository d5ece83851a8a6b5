import TunerWire.Json
import TunerWire.Text.Digits

/-!
# Writing JSON

A JSON value as a text on one line, the members of an object in their order. A `Style` says what
stands between the parts: `Style.spaced` has a space behind each comma and each colon. Quotes,
backslashes and control characters are escaped in strings, and every other character stands for
itself.

A double is written with all the decimal digits that it has, so it is read back as itself. The
doubles that have no digits are written as words.
-/

namespace TunerWire.Json

open Text

/-- What stands between the parts of a text. -/
structure Style where
  /-- Between two items or two members. -/
  comma : String
  /-- Between the name and the value of a member. -/
  colon : String

/-- A space behind each comma and each colon. -/
def Style.spaced : Style := { comma := ", ", colon := ": " }

/-- A character in a string. -/
def charText (c : Char) : List Char :=
  if c = '\x22' || c = '\\' then ['\\', c]
  else if c = '\n' then ['\\', 'n']
  else if c = '\r' then ['\\', 'r']
  else if c = '\t' then ['\\', 't']
  else if c = '\x08' then ['\\', 'b']
  else if c = '\x0c' then ['\\', 'f']
  else if c < ' ' then
    "\\u00".toList ++ [digitChar 'a' (c.toNat / 16), digitChar 'a' (c.toNat % 16)]
  else [c]

/-- A string between its quotes, behind what is already written. -/
def writeText (out : String) (s : String) : String :=
  (s.foldl (fun out c => (charText c).foldl String.push out) (out.push '\x22')).push '\x22'

/-- A double in decimal, or its word. -/
def realText : Double → String
  | .finite negative significand exponent =>
    let minus := if negative then "-" else ""
    if 0 ≤ exponent then minus ++ decimal (significand <<< exponent.toNat : Nat) ++ ".0"
    else minus ++ decimal (significand * Nat.pow 5 (-exponent).toNat : Nat) ++ "e" ++ decimal exponent
  | .infinite negative => if negative then "-Infinity" else "Infinity"
  | .notNumber => "NaN"

mutual

/-- A value behind what is already written. -/
def write (style : Style) (out : String) : Json → String
  | .null => out ++ "null"
  | .bool value => out ++ (if value then "true" else "false")
  | .int value => out ++ decimal value
  | .real value => out ++ realText value
  | .string value => writeText out value
  | .list items => (writeItems style (out.push '[') "" items).push ']'
  | .object members => (writeMembers style (out.push '\x7b') "" members).push '\x7d'

/-- Items, the first behind `separator` and each other one behind a comma. -/
def writeItems (style : Style) (out separator : String) : List Json → String
  | [] => out
  | v :: rest => writeItems style (write style (out ++ separator) v) style.comma rest

/-- Members, the first behind `separator` and each other one behind a comma. -/
def writeMembers (style : Style) (out separator : String) : List (String × Json) → String
  | [] => out
  | (name, v) :: rest =>
    let named := writeText (out ++ separator) name ++ style.colon
    writeMembers style (write style named v) style.comma rest

end

/-- The text of a value. -/
def toText (v : Json) (style : Style) : String := write style "" v

end TunerWire.Json

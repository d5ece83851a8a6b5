import TunerWire.Text.Digits
import TunerWire.Text.Printable

/-!
# Quoted text

A text is quoted between single quotes, or between double quotes when it holds single quotes and
no double ones. Inside, the backslash and the quote that is used stand behind a backslash, tab,
newline and carriage return have their letters, and every other character that is not printable
is written by its code point, in the shortest of three forms: two hexadecimal digits behind
`\x`, four behind `\u`, or eight behind `\U`.
-/

namespace TunerWire.Text

/-- The quote a text is put between. -/
def quoteFor (text : List Char) : Char :=
  if text.contains '\x27' && !text.contains '\x22' then '\x22' else '\x27'

/-- A number in lower case hexadecimal, with zeros before it up to the width. -/
def lowerHex (width n : Nat) : List Char :=
  ((digits 16 n).map (digitChar 'a')).leftpad width '0'

/-- A code point written out. -/
def codePoint (n : Nat) : List Char :=
  if n < 0x100 then '\\' :: 'x' :: lowerHex 2 n
  else if n < 0x10000 then '\\' :: 'u' :: lowerHex 4 n
  else '\\' :: 'U' :: lowerHex 8 n

/-- A character as it stands between two of `quote`. -/
def escape (quote c : Char) : List Char :=
  if c = quote || c = '\\' then ['\\', c]
  else if c = '\t' then ['\\', 't']
  else if c = '\n' then ['\\', 'n']
  else if c = '\r' then ['\\', 'r']
  else if isPrintable c then [c]
  else codePoint c.toNat

/-- A text between quotes. -/
def quoted (text : List Char) : List Char :=
  let quote := quoteFor text
  quote :: (text.flatMap (escape quote) ++ [quote])

end TunerWire.Text

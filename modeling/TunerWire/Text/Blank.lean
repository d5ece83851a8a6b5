/-!
# Blanks

The characters that separate and surround what is read. Hexadecimal text knows the six blanks of
ASCII; a numeral may also stand between the blanks of other scripts.

The separator characters U+001C to U+001F are blank in neither sense.
-/

namespace TunerWire.Text

/-- The blanks of ASCII: space, tab, newline, vertical tab, form feed and carriage return. -/
def asciiBlanks : List Char := [' ', '\t', '\n', '\x0b', '\x0c', '\r']

/-- Whether a character is one of the six blanks of ASCII. -/
def isAsciiBlank (c : Char) : Bool := asciiBlanks.contains c

/-- The blanks beyond ASCII, as ranges of code points with both ends in them. -/
def wideBlanks : List (Nat × Nat) :=
  [(0x0085, 0x0085), (0x00A0, 0x00A0), (0x1680, 0x1680), (0x2000, 0x200A), (0x2028, 0x2029),
    (0x202F, 0x202F), (0x205F, 0x205F), (0x3000, 0x3000)]

/-- Whether a character is blank, in ASCII or beyond. -/
def isBlank (c : Char) : Bool :=
  isAsciiBlank c || wideBlanks.any fun (low, high) => low ≤ c.toNat && c.toNat ≤ high

end TunerWire.Text

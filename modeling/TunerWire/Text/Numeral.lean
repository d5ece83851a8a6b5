import TunerWire.Text.Blank
import TunerWire.Text.DecimalDigit
import TunerWire.Text.Digits

/-!
# Numerals

Integers as decimal text, in both directions. What is read is blanks, a sign or none, decimal
digits of any script, blanks. A single underscore may stand between two digits. The sign is a plus
or a minus of ASCII, and directly before the first digit. What is written is a minus sign before a
negative number, and the digits.

A numeral has at most `maxDigits` digits. One with more is not read, whatever its value: a leading
zero counts, an underscore does not. That is found before what follows the digits is looked at. And
an integer that takes more is not written; its sign does not count.
-/

namespace TunerWire.Text.Numeral

/-- The most digits that are read or written. -/
def maxDigits : Nat := 4300

/-- What is said of a numeral of too many digits. -/
def limitText (detail : String) : String :=
  "Exceeds the limit (4300 digits) for integer string conversion" ++ detail ++
    "; use sys.set_int_max_str_digits() to increase the limit"

theorem limitText_empty : limitText "" =
    "Exceeds the limit (4300 digits) for integer string conversion; " ++
      "use sys.set_int_max_str_digits() to increase the limit" := by
  decide

/-- Write an integer, if it does not take too many digits. -/
def write? (z : Int) : Option String :=
  if maxDigits < (digits 10 z.natAbs).length then none else some (decimal z)

/-! ### Reading -/

/-- Why a text is no numeral. -/
inductive Failure where
  /-- It is not of the form. -/
  | malformed
  /-- It has `count` digits, and that is too many. -/
  | tooLong (count : Nat)
  deriving DecidableEq, Repr

/-- The digits at the head of a text, and the text behind them; `seen` holds the digits before
them, last first. There are none if an underscore is not followed by a digit. -/
def digitRun (seen : List Nat) : List Char → Option (List Nat × List Char)
  | [] => some (seen.reverse, [])
  | '_' :: c :: rest =>
    match decimalDigit? c with
    | some d => digitRun (d :: seen) rest
    | none => none
  | c :: rest =>
    match decimalDigit? c with
    | some d => digitRun (d :: seen) rest
    | none => if c = '_' then none else some (seen.reverse, c :: rest)

/-- Whether a text begins with a decimal digit. -/
def startsWithDigit : List Char → Bool
  | [] => false
  | c :: _ => (decimalDigit? c).isSome

/-- The sign at the head of a text, as a factor, and the text behind it. -/
def signOf : List Char → Int × List Char
  | '-' :: rest => (-1, rest)
  | '+' :: rest => (1, rest)
  | text => (1, text)

/-- The number that digits spell, most significant first. -/
def value (ds : List Nat) : Nat := ds.foldl (fun v d => 10 * v + d) 0

/-- Read an integer. -/
def read (text : List Char) : Except Failure Int :=
  let (factor, body) := signOf (text.dropWhile isBlank)
  if startsWithDigit body then
    match digitRun [] body with
    | none => .error .malformed
    | some (ds, rest) =>
      if maxDigits < ds.length then .error (.tooLong ds.length)
      else if rest.all isBlank then .ok (factor * value ds)
      else .error .malformed
  else .error .malformed

end TunerWire.Text.Numeral

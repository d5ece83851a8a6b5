/-!
# Doubles

The numbers of the format binary64: a significand of at most 53 bits times a power of two, an
infinity, or what is not a number. Zero and the infinities have a sign.

A decimal fraction is rounded to the nearest double, and a fraction halfway between two of them
to the one with the even significand (`roundDiv`). The last place of a double is worth at least
`2 ^ -1074`. What would round to `2 ^ 1024` or more is infinite.
-/

namespace TunerWire

/-- A number of the format binary64. -/
inductive Double where
  /-- `significand · 2 ^ exponent`, or its negative. -/
  | finite (negative : Bool) (significand : Nat) (exponent : Int)
  /-- More than every finite number, or less. -/
  | infinite (negative : Bool)
  /-- Not a number. -/
  | notNumber
  deriving DecidableEq, Repr

namespace Double

/-- The integer nearest to `n / d`, of two equally near ones the even one. -/
def roundDiv (n d : Nat) : Nat :=
  let quotient := n / d
  let rest := n % d
  if 2 * rest < d ∨ (2 * rest = d ∧ quotient % 2 = 0) then quotient else quotient + 1

/-- `n / d` in units of `2 ^ exponent`, as a fraction. -/
def inUnits (n d : Nat) (exponent : Int) : Nat × Nat :=
  if 0 ≤ exponent then (n, d <<< exponent.toNat) else (n <<< (-exponent).toNat, d)

/-- The exponent of the last place of a significand for `n / d`: the significand has 53 bits, or
fewer where the exponent is the least one. -/
def lastPlace (n d : Nat) : Int :=
  let guess : Int := (n.log2 : Int) - d.log2
  let (a, b) := inUnits n d guess
  let leading := if a < b then guess - 1 else guess
  max (leading - 52) (-1074)

/-- The first number that takes 54 bits. -/
def significandBound : Nat := 9007199254740992

/-- The greatest exponent of a double. -/
def maxExponent : Int := 971

/-- The double nearest to `n / d`, or to its negative. -/
def ofRatio (negative : Bool) (n d : Nat) : Double :=
  if n = 0 then .finite negative 0 0
  else
    let exponent := lastPlace n d
    let (a, b) := inUnits n d exponent
    let significand := roundDiv a b
    if maxExponent < exponent ∨ (exponent = maxExponent ∧ significandBound ≤ significand) then
      .infinite negative
    else .finite negative significand exponent

/-- The double nearest to `n · 10 ^ exponent`, or to its negative. An exponent far outside the
range of doubles is decided without computing the power. -/
def ofDecimal (negative : Bool) (n : Nat) (exponent : Int) : Double :=
  if n = 0 then .finite negative 0 0
  else if 400 < exponent then .infinite negative
  else if exponent + n.log2 < -400 then .finite negative 0 0
  else if 0 ≤ exponent then ofRatio negative (n * Nat.pow 10 exponent.toNat) 1
  else ofRatio negative n (Nat.pow 10 (-exponent).toNat)

/-- Whether a double is zero, of either sign. -/
def isZero : Double → Bool
  | .finite _ significand _ => significand = 0
  | .infinite _ | .notNumber => false

/-- The integer part of `significand · 2 ^ exponent`, or of its negative, toward zero. -/
def integerPart (negative : Bool) (significand : Nat) (exponent : Int) : Int :=
  let whole : Nat :=
    if 0 ≤ exponent then significand <<< exponent.toNat
    else significand >>> (-exponent).toNat
  if negative then -whole else whole

end Double

end TunerWire

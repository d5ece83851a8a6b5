/-!
# Digits

How numbers are written: an integer in decimal, and an integer in hexadecimal padded with zeros
to a width. The digits of a number come most significant first, and zero has one digit.

In padded hexadecimal the letters are upper case, a negative number is a minus sign before the
digits of its absolute value, and the sign counts in the width: minus one on a width of four is
`-001`. A number that needs more than the width takes what it needs.
-/

namespace TunerWire.Text

/-- The digits of `n` in a base of at least two, most significant first. -/
def digits (base n : Nat) : List Nat :=
  if base < 2 ∨ n < base then [n] else digits base (n / base) ++ [n % base]
termination_by n
decreasing_by exact Nat.div_lt_self (by omega) (by omega)

/-- The character of a digit; digits from ten on are letters, `letterTen` the first. -/
def digitChar (letterTen : Char) (d : Nat) : Char :=
  if d < 10 then Char.ofNat ('0'.toNat + d) else Char.ofNat (letterTen.toNat + (d - 10))

/-- A minus sign before a negative number, and nothing before any other. -/
def sign (z : Int) : List Char := if z < 0 then ['-'] else []

/-- An integer in decimal. -/
def decimal (z : Int) : String :=
  String.ofList (sign z ++ (digits 10 z.natAbs).map (digitChar 'A'))

/-- An integer in upper case hexadecimal, with zeros after the sign up to the width. -/
def paddedHex (width : Nat) (z : Int) : List Char :=
  let written := (digits 16 z.natAbs).map (digitChar 'A')
  sign z ++ List.replicate (width - (sign z).length - written.length) '0' ++ written

theorem digits_ne_nil (base n : Nat) : digits base n ≠ [] := by
  rw [digits]; split <;> simp

theorem lt_of_mem_digits {base : Nat} (hb : 2 ≤ base) {n d : Nat} (hd : d ∈ digits base n) :
    d < base := by
  induction n using Nat.strongRecOn with
  | ind n ih =>
    rw [digits] at hd
    split at hd
    · simp only [List.mem_singleton] at hd
      omega
    · next h =>
      simp only [List.mem_append, List.mem_singleton] at hd
      rcases hd with hd | rfl
      · exact ih _ (Nat.div_lt_self (by omega) (by omega)) hd
      · exact Nat.mod_lt _ (by omega)

/-- The digits determine the number. -/
theorem foldl_digits {base : Nat} (hb : 2 ≤ base) (n : Nat) :
    (digits base n).foldl (fun v d => base * v + d) 0 = n := by
  induction n using Nat.strongRecOn with
  | ind n ih =>
    rw [digits]
    split
    · simp
    · next h =>
      rw [List.foldl_append, ih _ (Nat.div_lt_self (by omega) (by omega))]
      exact Nat.div_add_mod n base

end TunerWire.Text

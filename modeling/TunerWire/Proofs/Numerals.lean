import Mathlib.Algebra.Order.Ring.Int
import TunerWire.Fault

/-!
# Integers as text

Reading and writing have one limit. A number takes at most `k` digits exactly if it is below the
power `k` of the base (`length_digits_le_iff`), so an integer is written exactly if its absolute
value is below `10 ^ 4300`, whatever its sign (`write?_eq`). What is written is read back
(`read_of_write?`), and what is read, from whatever text, can be written (`exists_read_iff`).

A fault can name an integer as far as it can be written (`naming_eq`). From there on the text of the
fault is that of the limit, the same for all faults, and a fault of a length is no fault of the codec
any more (`classNaming_eq`).
-/

namespace TunerWire

/-! ### Powers of ten -/

theorem lt_ten_pow {z : Int} {j k : Nat} (h : j ≤ k) (hz : z < 10 ^ j) : z < 10 ^ k :=
  hz.trans_le (pow_le_pow_right₀ (by decide) h)

theorem natAbs_lt_ten_pow {z : Int} {j k : Nat} (h : j ≤ k) (hz : z.natAbs < 10 ^ j) :
    z.natAbs < 10 ^ k :=
  hz.trans_le (Nat.pow_le_pow_right (by decide) h)

theorem not_natAbs_ten_pow_lt (k : Nat) : ¬ (10 ^ k : Int).natAbs < 10 ^ k := by
  rw [Int.natAbs_pow]
  exact Nat.lt_irrefl _

namespace Text

/-! ### Writing within the limit -/

theorem length_digits_le_iff {base n k : Nat} (hb : 2 ≤ base) (hk : k ≠ 0) :
    (digits base n).length ≤ k ↔ n < base ^ k := by
  obtain ⟨k, rfl⟩ := Nat.exists_eq_succ_of_ne_zero hk
  induction k generalizing n with
  | zero =>
    rw [digits, Nat.succ_eq_add_one, Nat.zero_add, Nat.pow_one]
    split
    · next h => exact iff_of_true (Nat.le_refl 1) (by omega)
    · next h =>
      have hfront := List.length_pos_iff.mpr (digits_ne_nil base (n / base))
      rw [List.length_append, List.length_singleton]
      omega
  | succ k ih =>
    rw [digits]
    split
    · next h =>
      have hn : n < base := by omega
      refine iff_of_true (Nat.le_add_left 1 (k + 1)) ?_
      exact Nat.lt_of_lt_of_le hn (Nat.le_self_pow hk base)
    · next h =>
      rw [List.length_append, List.length_singleton, Nat.succ_eq_add_one, Nat.add_le_add_iff_right,
        ih (Nat.succ_ne_zero k), Nat.div_lt_iff_lt_mul (by omega), ← Nat.pow_succ]

namespace Numeral

/-- An integer is written if its absolute value is below `10 ^ 4300`, and else it is not. -/
theorem write?_eq (z : Int) :
    write? z = if z.natAbs < 10 ^ 4300 then some (decimal z) else none := by
  have hfits : (digits 10 z.natAbs).length ≤ 4300 ↔ z.natAbs < 10 ^ 4300 :=
    length_digits_le_iff (by decide) (by decide)
  rw [write?, maxDigits]
  by_cases h : z.natAbs < 10 ^ 4300
  · rw [if_pos h, if_neg (Nat.not_lt.mpr (hfits.mpr h))]
  · rw [if_neg h, if_pos (Nat.not_le.mp (mt hfits.mp h))]

theorem isSome_write?_iff {z : Int} : (write? z).isSome ↔ z.natAbs < 10 ^ 4300 := by
  rw [write?_eq]
  split
  · next h => exact iff_of_true rfl h
  · next h => exact iff_of_false Bool.false_ne_true h

/-! ### Reading what was written -/

theorem decimalDigit?_digitChar {d : Nat} (h : d < 10) :
    decimalDigit? (digitChar 'A' d) = some d := by
  have hall : ∀ d < 10, decimalDigit? (digitChar 'A' d) = some d := by decide
  exact hall d h

theorem isBlank_digitChar {d : Nat} (h : d < 10) : isBlank (digitChar 'A' d) = false := by
  have hall : ∀ d < 10, isBlank (digitChar 'A' d) = false := by decide
  exact hall d h

theorem digitRun_of_digit {seen : List Nat} {c : Char} {d : Nat} {rest : List Char}
    (h : decimalDigit? c = some d) : digitRun seen (c :: rest) = digitRun (d :: seen) rest := by
  have hunderscore : decimalDigit? '_' = none := by decide
  rw [digitRun.eq_def]
  split
  · next heq => cases heq
  · next heq =>
    obtain ⟨rfl, -⟩ := List.cons.inj heq
    rw [h] at hunderscore
    cases hunderscore
  · next heq =>
    obtain ⟨rfl, rfl⟩ := List.cons.inj heq
    rw [h]

theorem digitRun_digits {seen ds : List Nat} (h : ∀ d ∈ ds, d < 10) :
    digitRun seen (ds.map (digitChar 'A')) = some (seen.reverse ++ ds, []) := by
  induction ds generalizing seen with
  | nil => rw [List.map_nil, digitRun, List.append_nil]
  | cons d ds ih =>
    obtain ⟨hd, hds⟩ := List.forall_mem_cons.mp h
    rw [List.map_cons, digitRun_of_digit (decimalDigit?_digitChar hd), ih hds, List.reverse_cons,
      List.append_assoc, List.singleton_append]

theorem signOf_of_digit {c : Char} {d : Nat} {rest : List Char} (h : decimalDigit? c = some d) :
    signOf (c :: rest) = (1, c :: rest) := by
  have hminus : decimalDigit? '-' = none := by decide
  have hplus : decimalDigit? '+' = none := by decide
  unfold signOf
  split
  · next heq =>
    rw [(List.cons.inj heq).1, hminus] at h
    cases h
  · next heq =>
    rw [(List.cons.inj heq).1, hplus] at h
    cases h
  · rfl

/-- The sign of an integer is read as a factor, before digits that were written. -/
theorem signOf_sign_append (z : Int) {d : Nat} (hd : d < 10) (rest : List Char) :
    signOf ((sign z ++ digitChar 'A' d :: rest).dropWhile isBlank) =
      (if z < 0 then -1 else 1, digitChar 'A' d :: rest) := by
  rw [sign]
  by_cases hneg : z < 0
  · rw [if_pos hneg, if_pos hneg]
    rfl
  · rw [if_neg hneg, if_neg hneg, List.nil_append, List.dropWhile_cons_of_neg,
      signOf_of_digit (decimalDigit?_digitChar hd)]
    rw [isBlank_digitChar hd]
    exact Bool.false_ne_true

/-- **What is written is read back.** -/
theorem read_of_write? {z : Int} {text : String} (h : write? z = some text) :
    read text.toList = .ok z := by
  rw [write?] at h
  split at h
  · cases h
  next hfits =>
  obtain rfl := Option.some.inj h
  have hten : ∀ d ∈ digits 10 z.natAbs, d < 10 := fun d => lt_of_mem_digits (by decide)
  have hvalue : value (digits 10 z.natAbs) = z.natAbs := foldl_digits (by decide) _
  obtain ⟨d, rest, hdigits⟩ := List.exists_cons_of_ne_nil (digits_ne_nil 10 z.natAbs)
  rw [hdigits] at hten hvalue hfits
  have hd : d < 10 := hten d List.mem_cons_self
  have hsign : (if z < 0 then (-1 : Int) else 1) * z.natAbs = z := by
    split <;> omega
  have hstarts : startsWithDigit (digitChar 'A' d :: rest.map (digitChar 'A')) = true := by
    rw [startsWithDigit, decimalDigit?_digitChar hd]
    rfl
  have hrun : digitRun [] _ = some ([].reverse ++ d :: rest, []) := digitRun_digits hten
  rw [List.map_cons] at hrun
  rw [decimal, String.toList_ofList, hdigits, List.map_cons, read, signOf_sign_append z hd]
  simp only [hstarts, hrun, List.reverse_nil, List.nil_append, if_neg hfits, hvalue, hsign,
    List.all_nil, if_true]

/-! ### Writing what was read -/

theorem lt_of_decimalDigit? {c : Char} {d : Nat} (h : decimalDigit? c = some d) : d < 10 := by
  obtain ⟨start, hfind, rfl⟩ := Option.map_eq_some_iff.mp h
  have hrange := List.find?_some hfind
  simp only [Bool.and_eq_true, decide_eq_true_eq] at hrange
  omega

theorem lt_of_mem_digitRun {seen ds : List Nat} {text rest : List Char}
    (hseen : ∀ d ∈ seen, d < 10) (h : digitRun seen text = some (ds, rest)) : ∀ d ∈ ds, d < 10 := by
  induction seen, text using digitRun.induct with
  | case1 seen =>
    rw [digitRun] at h
    cases h
    exact fun d hd => hseen d (List.mem_reverse.mp hd)
  | case2 seen c text d hd ih =>
    rw [digitRun, hd] at h
    refine ih ?_ h
    exact List.forall_mem_cons.mpr ⟨lt_of_decimalDigit? hd, hseen⟩
  | case3 seen c text hd =>
    rw [digitRun, hd] at h
    cases h
  | case4 seen c text hform d hd ih =>
    rw [digitRun_of_digit hd] at h
    refine ih ?_ h
    exact List.forall_mem_cons.mpr ⟨lt_of_decimalDigit? hd, hseen⟩
  | case5 seen text hform hd =>
    simp only [digitRun, hd] at h
    cases h
  | case6 seen c text hform hd hc =>
    simp only [digitRun, hd, if_neg hc] at h
    cases h
    exact fun d hd => hseen d (List.mem_reverse.mp hd)

theorem foldl_lt {ds : List Nat} (h : ∀ d ∈ ds, d < 10) (v : Nat) :
    ds.foldl (fun v d => 10 * v + d) v < (v + 1) * 10 ^ ds.length := by
  induction ds generalizing v with
  | nil => simp
  | cons d ds ih =>
    obtain ⟨hd, hds⟩ := List.forall_mem_cons.mp h
    calc ds.foldl (fun v d => 10 * v + d) (10 * v + d)
        < (10 * v + d + 1) * 10 ^ ds.length := ih hds _
      _ ≤ ((v + 1) * 10) * 10 ^ ds.length := Nat.mul_le_mul_right _ (by omega)
      _ = (v + 1) * 10 ^ (d :: ds).length := by
        rw [List.length_cons, Nat.pow_succ', Nat.mul_assoc]

theorem natAbs_signOf (text : List Char) : (signOf text).1.natAbs = 1 := by
  unfold signOf
  split <;> rfl

/-- What is read has no more digits than are written. -/
theorem natAbs_lt_of_read {text : List Char} {z : Int} (h : read text = .ok z) :
    z.natAbs < 10 ^ 4300 := by
  have hfactor := natAbs_signOf (text.dropWhile isBlank)
  unfold read at h
  obtain ⟨factor, body⟩ := signOf (text.dropWhile isBlank)
  simp only at h hfactor
  split at h
  · split at h
    · cases h
    next ds rest hrun =>
    split at h
    · cases h
    next hfits =>
    have hlength : ds.length ≤ 4300 := Nat.not_lt.mp hfits
    split at h
    · cases h
      have hvalue := foldl_lt (lt_of_mem_digitRun (by simp) hrun) 0
      rw [Nat.zero_add, Nat.one_mul] at hvalue
      refine natAbs_lt_ten_pow hlength ?_
      rwa [Int.natAbs_mul, hfactor, Nat.one_mul, Int.natAbs_natCast]
    · cases h
  · cases h

/-- **An integer is read from some text exactly if it is written.** -/
theorem exists_read_iff {z : Int} : (∃ text, read text = .ok z) ↔ (write? z).isSome := by
  constructor
  · rintro ⟨text, h⟩
    exact isSome_write?_iff.mpr (natAbs_lt_of_read h)
  · intro h
    obtain ⟨text, htext⟩ := Option.isSome_iff_exists.mp h
    exact ⟨_, read_of_write? htext⟩

end Numeral

end Text

open Text

/-! ### Faults -/

namespace Fault

/-- A fault whose text names an integer keeps its class exactly if the integer can be written. -/
theorem classNaming_eq (z : Int) (errorClass : ErrorClass) :
    classNaming z errorClass = if z.natAbs < 10 ^ 4300 then errorClass else .value := by
  simp only [classNaming, Numeral.isSome_write?_iff]

/-- The text of a fault names an integer exactly if the integer can be written. -/
theorem naming_eq (before : String) (z : Int) (after : String) :
    naming before z after =
      if z.natAbs < 10 ^ 4300 then before ++ decimal z ++ after else Numeral.limitText "" := by
  rw [naming, Numeral.write?_eq]
  by_cases h : z.natAbs < 10 ^ 4300
  · rw [if_pos h, if_pos h]
  · rw [if_neg h, if_neg h]

end Fault

end TunerWire

import TunerWire.Text.Hex

/-!
# Reading hexadecimal text

Reading accepts exactly the texts that spell bytes, and gives the bytes they spell
(`read_eq_ok_iff`). Both ways of writing spell what was written (`spells_plain`, `spells_spaced`),
so what was written reads back. A text that spells nothing is refused at one position, which is told
from the text alone (`Offends`, `read_eq_error_iff`).

The blanks, the digits and what lies beyond ASCII are three kinds of characters: no digit is blank
(`isAsciiBlank_of_digit?`), and a text that spells something is ASCII throughout (`Spells.ascii`),
so the scan for other characters refuses nothing that the pairs would accept.
-/

namespace TunerWire.Text.Hex

/-! ### Characters -/

theorem digit?_digitChar {d : Nat} (h : d < 16) : digit? (digitChar 'a' d) = some d := by
  have hall : ∀ d < 16, digit? (digitChar 'a' d) = some d := by decide
  exact hall d h

theorem isAsciiBlank_of_digit? {c : Char} {d : Nat} (h : digit? c = some d) :
    isAsciiBlank c = false := by
  have hblanks : asciiBlanks.all fun b => digit? b = none := by decide
  rw [isAsciiBlank, List.contains_eq_mem, decide_eq_false_iff_not]
  intro hmem
  rw [of_decide_eq_true (List.all_eq_true.mp hblanks c hmem)] at h
  cases h

theorem toNat_le_of_isAsciiBlank {c : Char} (h : isAsciiBlank c = true) : c.toNat ≤ 127 := by
  have hblanks : asciiBlanks.all fun b => b.toNat ≤ 127 := by decide
  rw [isAsciiBlank, List.contains_eq_mem, decide_eq_true_eq] at h
  exact of_decide_eq_true (List.all_eq_true.mp hblanks c h)

theorem toNat_le_of_digit? {c : Char} {d : Nat} (h : digit? c = some d) : c.toNat ≤ 127 := by
  have hle {bound : Char} (hc : c ≤ bound) (hb : bound.toNat ≤ 127) : c.toNat ≤ 127 :=
    Nat.le_trans hc hb
  unfold digit? at h
  split at h
  · next hc => exact hle hc.2 (by decide)
  split at h
  · next hc => exact hle hc.2 (by decide)
  split at h
  · next hc => exact hle hc.2 (by decide)
  · cases h

/-! ### Texts that spell bytes -/

/-- A text that spells bytes is ASCII. -/
theorem Spells.ascii {text : List Char} {bytes : Bytes} (h : Spells text bytes) :
    ∀ c ∈ text, c.toNat ≤ 127 := by
  induction h with
  | nil => exact fun _ hc => absurd hc List.not_mem_nil
  | blank hblank _ ih => exact List.forall_mem_cons.mpr ⟨toNat_le_of_isAsciiBlank hblank, ih⟩
  | pair hhigh hlow _ ih =>
    exact List.forall_mem_cons.mpr ⟨toNat_le_of_digit? hhigh,
      List.forall_mem_cons.mpr ⟨toNat_le_of_digit? hlow, ih⟩⟩

theorem spells_pair_append (byte : UInt8) {text : List Char} {bytes : Bytes}
    (h : Spells text bytes) : Spells (Hex.pair byte ++ text) (byte :: bytes) := by
  have hbyte := byte.toNat_lt
  have hpair := Spells.pair (digit?_digitChar (show byte.toNat / 16 < 16 by omega))
    (digit?_digitChar (show byte.toNat % 16 < 16 by omega)) h
  rwa [Nat.div_add_mod, UInt8.ofNat_toNat] at hpair

theorem spells_plain (bytes : Bytes) : Spells (plain bytes) bytes := by
  induction bytes with
  | nil => exact .nil
  | cons byte bytes ih => exact spells_pair_append byte ih

theorem spaced_cons_cons (byte next : UInt8) (bytes : Bytes) :
    spaced (byte :: next :: bytes) = Hex.pair byte ++ ' ' :: spaced (next :: bytes) := by
  rw [spaced, List.map_cons, List.map_cons, List.intercalate_cons_cons, List.append_assoc]
  rfl

theorem spells_spaced (bytes : Bytes) : Spells (spaced bytes) bytes := by
  induction bytes with
  | nil => exact .nil
  | cons byte bytes ih =>
    cases bytes with
    | nil => exact spells_pair_append byte .nil
    | cons next bytes =>
      rw [spaced_cons_cons]
      exact spells_pair_append byte (.blank (show isAsciiBlank ' ' by decide) ih)

/-! ### Reading -/

section Reader

variable {c d : Char} {high low : Nat} (position : Nat) (seen : Bytes) (text : List Char)

theorem readPairs_of_blank (h : isAsciiBlank c = true) :
    readPairs position seen (c :: text) = readPairs (position + 1) seen text := by
  rw [readPairs.eq_def]
  simp only
  rw [if_pos h]

theorem readPairs_of_pair (hhigh : digit? c = some high) (hlow : digit? d = some low) :
    readPairs position seen (c :: d :: text) =
      readPairs (position + 2) (UInt8.ofNat (16 * high + low) :: seen) text := by
  rw [readPairs.eq_def]
  simp only [hhigh, hlow, isAsciiBlank_of_digit? hhigh, Bool.false_eq_true, if_false]

theorem readPairs_of_no_high (hblank : isAsciiBlank c = false) (hhigh : digit? c = none) :
    readPairs position seen (c :: text) = .error position := by
  unfold readPairs
  rw [hblank, if_neg Bool.false_ne_true]
  simp only [hhigh]

theorem readPairs_of_no_low (hhigh : digit? c = some high) (hlow : digit? d = none) :
    readPairs position seen (c :: d :: text) = .error (position + 1) := by
  unfold readPairs
  rw [isAsciiBlank_of_digit? hhigh, if_neg Bool.false_ne_true]
  simp only [hhigh, hlow]

theorem readPairs_of_lone (hhigh : digit? c = some high) :
    readPairs position seen [c] = .error (position + 1) := by
  unfold readPairs
  rw [isAsciiBlank_of_digit? hhigh, if_neg Bool.false_ne_true]
  simp only [hhigh]

end Reader

/-- What spells bytes is read over, whatever follows it. -/
theorem readPairs_append_of_spells {text : List Char} {bytes : Bytes} (h : Spells text bytes)
    (position : Nat) (seen : Bytes) (rest : List Char) :
    readPairs position seen (text ++ rest) =
      readPairs (position + text.length) (bytes.reverse ++ seen) rest := by
  induction h generalizing position seen with
  | nil => rfl
  | blank hblank _ ih =>
    rw [List.cons_append, readPairs_of_blank _ _ _ hblank, ih, List.length_cons, Nat.add_assoc,
      Nat.add_comm 1]
  | pair hhigh hlow _ ih =>
    rw [List.cons_append, List.cons_append, readPairs_of_pair _ _ _ hhigh hlow, ih,
      List.reverse_cons, List.append_assoc, List.singleton_append, List.length_cons,
      List.length_cons, Nat.add_assoc, Nat.add_comm 2]

theorem readPairs_of_spells {text : List Char} {bytes : Bytes} (h : Spells text bytes) :
    readPairs 0 [] text = .ok bytes := by
  have hread := readPairs_append_of_spells h 0 [] []
  rwa [List.append_nil, List.append_nil, readPairs, List.reverse_reverse] at hread

theorem exists_spells_of_readPairs {position : Nat} {seen bytes : Bytes} {text : List Char}
    (h : readPairs position seen text = .ok bytes) :
    ∃ rest, Spells text rest ∧ bytes = seen.reverse ++ rest := by
  fun_induction readPairs position seen text with
  | case1 position seen => exact ⟨[], .nil, by rw [List.append_nil, Except.ok.inj h]⟩
  | case2 position seen c text hblank ih =>
    obtain ⟨rest, hrest, rfl⟩ := ih h
    exact ⟨rest, .blank hblank hrest, rfl⟩
  | case3 => cases h
  | case4 => cases h
  | case5 => cases h
  | case6 position seen c _ high d text hhigh low hlow ih =>
    obtain ⟨rest, hrest, rfl⟩ := ih h
    refine ⟨_, .pair hhigh hlow hrest, ?_⟩
    rw [List.reverse_cons, List.append_assoc, List.singleton_append]

/-- The scan for other characters finds none in an ASCII text. -/
theorem findIdx?_wide_eq_none_iff {text : List Char} :
    text.findIdx? (fun c => 127 < c.toNat) = none ↔ ∀ c ∈ text, c.toNat ≤ 127 := by
  simp only [List.findIdx?_eq_none_iff, decide_eq_false_iff_not, Nat.not_lt]

theorem read_of_ascii {text : List Char} (h : ∀ c ∈ text, c.toNat ≤ 127) :
    read text = readPairs 0 [] text := by
  rw [read, findIdx?_wide_eq_none_iff.mpr h]

/-- **Reading accepts the texts that spell bytes**, and gives the bytes. -/
theorem read_eq_ok_iff {text : List Char} {bytes : Bytes} :
    read text = .ok bytes ↔ Spells text bytes := by
  constructor
  · intro h
    rw [read] at h
    split at h
    · cases h
    · obtain ⟨rest, hrest, rfl⟩ := exists_spells_of_readPairs h
      exact hrest
  · intro h
    rw [read_of_ascii h.ascii, readPairs_of_spells h]

theorem Spells.unique {text : List Char} {a b : Bytes} (ha : Spells text a) (hb : Spells text b) :
    a = b := by
  have hread := read_eq_ok_iff.mpr ha
  rw [read_eq_ok_iff.mpr hb] at hread
  exact (Except.ok.inj hread).symm

theorem spaced_inj {a b : Bytes} (h : spaced a = spaced b) : a = b :=
  (spells_spaced a).unique (h ▸ spells_spaced b)

/-! ### Texts that spell nothing -/

/-- The first position at which a digit has to be and is none. All before it spells bytes, but for
the first digit of a pair that is broken off. Behind a lone last digit, the position is the end of
the text. -/
inductive NoDigitAt : List Char → Nat → Prop where
  /-- A character is no blank, and no pair begins with it. -/
  | high {before after : List Char} {c : Char} {bytes : Bytes} :
      Spells before bytes → isAsciiBlank c = false → digit? c = none →
        NoDigitAt (before ++ c :: after) before.length
  /-- A character does not complete the pair that a digit began. -/
  | low {before after : List Char} {c d : Char} {value : Nat} {bytes : Bytes} :
      Spells before bytes → digit? c = some value → digit? d = none →
        NoDigitAt (before ++ c :: d :: after) (before.length + 1)
  /-- The text ends within a pair. -/
  | lone {before : List Char} {c : Char} {value : Nat} {bytes : Bytes} :
      Spells before bytes → digit? c = some value →
        NoDigitAt (before ++ [c]) (before.length + 1)

/-- The position that is wrong in a text: that of the first character beyond ASCII where there is
one, and else the first one at which a digit has to be and is none. -/
inductive Offends (text : List Char) : Nat → Prop where
  /-- The first character beyond ASCII, whatever stands before it. -/
  | wide {before after : List Char} {c : Char} :
      text = before ++ c :: after → (∀ b ∈ before, b.toNat ≤ 127) → 127 < c.toNat →
        Offends text before.length
  /-- In an ASCII text, the first place without the digit that has to be there. -/
  | noDigit {position : Nat} :
      (∀ c ∈ text, c.toNat ≤ 127) → NoDigitAt text position → Offends text position

theorem NoDigitAt.blank {text : List Char} {position : Nat} {c : Char}
    (hblank : isAsciiBlank c = true) (h : NoDigitAt text position) :
    NoDigitAt (c :: text) (position + 1) := by
  cases h with
  | high hbefore hc hnone => exact .high (.blank hblank hbefore) hc hnone
  | low hbefore hc hnone => exact .low (.blank hblank hbefore) hc hnone
  | lone hbefore hc => exact .lone (.blank hblank hbefore) hc

theorem NoDigitAt.pair {text : List Char} {position high low : Nat} {c d : Char}
    (hhigh : digit? c = some high) (hlow : digit? d = some low) (h : NoDigitAt text position) :
    NoDigitAt (c :: d :: text) (position + 2) := by
  cases h with
  | high hbefore hc hnone => exact .high (.pair hhigh hlow hbefore) hc hnone
  | low hbefore hc hnone => exact .low (.pair hhigh hlow hbefore) hc hnone
  | lone hbefore hc => exact .lone (.pair hhigh hlow hbefore) hc

/-- The pairs of a text are refused at the first place without a digit, and nowhere else. -/
theorem readPairs_eq_error_iff {text : List Char} {wrong : Nat} :
    readPairs 0 [] text = .error wrong ↔ NoDigitAt text wrong := by
  constructor
  · suffices hoffset : ∀ position seen, readPairs position seen text = .error wrong →
        ∃ place, NoDigitAt text place ∧ wrong = position + place by
      intro h
      obtain ⟨place, hplace, rfl⟩ := hoffset 0 [] h
      rwa [Nat.zero_add]
    intro position seen h
    fun_induction readPairs position seen text with
    | case1 => cases h
    | case2 position seen c text hblank ih =>
      obtain ⟨place, hplace, rfl⟩ := ih h
      exact ⟨place + 1, hplace.blank hblank, by omega⟩
    | case3 position seen c text hblank hnone =>
      rw [Bool.not_eq_true] at hblank
      exact ⟨0, .high .nil hblank hnone, (Except.error.inj h).symm⟩
    | case4 position seen c hblank value hvalue =>
      exact ⟨1, .lone .nil hvalue, (Except.error.inj h).symm⟩
    | case5 position seen c hblank value d text hvalue hnone =>
      exact ⟨1, .low .nil hvalue hnone, (Except.error.inj h).symm⟩
    | case6 position seen c _ high d text hhigh low hlow ih =>
      obtain ⟨place, hplace, rfl⟩ := ih h
      exact ⟨place + 2, hplace.pair hhigh hlow, by omega⟩
  · intro h
    cases h with
    | high hbefore hblank hnone =>
      rw [readPairs_append_of_spells hbefore, readPairs_of_no_high _ _ _ hblank hnone, Nat.zero_add]
    | low hbefore hvalue hnone =>
      rw [readPairs_append_of_spells hbefore, readPairs_of_no_low _ _ _ hvalue hnone, Nat.zero_add]
    | lone hbefore hvalue =>
      rw [readPairs_append_of_spells hbefore, readPairs_of_lone _ _ hvalue, Nat.zero_add]

/-- **Reading refuses a text at the position that is wrong in it.** -/
theorem read_eq_error_iff {text : List Char} {wrong : Nat} :
    read text = .error wrong ↔ Offends text wrong := by
  constructor
  · intro h
    rw [read] at h
    split at h
    · next position hfind =>
      obtain rfl := Except.error.inj h
      obtain ⟨hlt, hwide, hbefore⟩ := List.findIdx?_eq_some_iff_getElem.mp hfind
      have hlength : (text.take position).length = position := by
        rw [List.length_take]
        omega
      have hsplit : text = text.take position ++ text[position] :: text.drop (position + 1) := by
        rw [List.getElem_cons_drop, List.take_append_drop]
      rw [← hlength]
      refine .wide hsplit (fun b hb => ?_) (of_decide_eq_true hwide)
      obtain ⟨j, hj, rfl⟩ := List.mem_take_iff_getElem.mp hb
      simpa using hbefore j (by omega)
    · next hnone =>
      exact .noDigit (findIdx?_wide_eq_none_iff.mp hnone) (readPairs_eq_error_iff.mp h)
  · intro h
    cases h with
    | wide htext hbefore hwide =>
      rw [read, htext, List.findIdx?_append, findIdx?_wide_eq_none_iff.mpr hbefore,
        List.findIdx?_cons, if_pos (decide_eq_true hwide)]
      simp
    | noDigit hascii h => rw [read_of_ascii hascii, readPairs_eq_error_iff.mpr h]

theorem Offends.unique {text : List Char} {wrong wrong' : Nat} (h : Offends text wrong)
    (h' : Offends text wrong') : wrong = wrong' := by
  have hread := read_eq_error_iff.mpr h
  rw [read_eq_error_iff.mpr h'] at hread
  exact (Except.error.inj hread).symm

/-- A position is wrong in a text exactly when it spells no bytes. -/
theorem exists_offends_iff {text : List Char} :
    (∃ wrong, Offends text wrong) ↔ ¬ ∃ bytes, Spells text bytes := by
  simp only [← read_eq_error_iff, ← read_eq_ok_iff]
  cases read text with
  | ok bytes => simp
  | error wrong => simp

end TunerWire.Text.Hex

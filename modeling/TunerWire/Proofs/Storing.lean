import TunerWire.Proofs.Numerals
import TunerWire.Proofs.RoundTrip

/-!
# Storing lengths in a shared buffer

A length is written into a window of a buffer whose other bytes belong to other fields. Here it is
written a second time, byte by byte (`writeAt`): a byte is in the buffer as soon as it is stored and
stays there if something goes wrong behind it, and a number that is no byte or an index outside of
the window would be an outcome of its own (`Halt`). Both ways come to the same (`writeAt_eq`). So a
length that is refused leaves the buffer as it was, and every number that is stored is a byte. What
it is refused as depends on whether it can be written (`exists_size_eq_error`).

What is written stays within the bytes that the length takes, and reading finds it there, whatever
stands behind it (`storesLength_of_admits`). Reading accepts more than writing makes: a window may
spell a length in a form that is not the shortest one. It comes back from being read and written
exactly when it does not (`rewrite_eq_iff`).
-/

namespace TunerWire

open TunerWire.Frame TunerWire.Draft

/-! ### Windows -/

namespace Draft

theorem getElem?_store_of_outside {buffer : Array UInt8} {index j : Nat} {bytes : Bytes}
    (h : j < index ∨ index + bytes.length ≤ j) : (store buffer index bytes)[j]? = buffer[j]? := by
  induction bytes generalizing buffer index with
  | nil => rfl
  | cons b bs ih =>
    rw [List.length_cons] at h
    rw [store, ih (by omega), Array.getElem?_setIfInBounds_ne (by omega)]

end Draft

namespace Window

/-- The window at the same place of another buffer. -/
def onto (window : Window) (buffer : Array UInt8) : Window := { window with buffer }

theorem bytes_eq_take_drop (window : Window) :
    window.bytes = (window.buffer.toList.drop window.start).take window.size := by
  rw [bytes, Array.toList_extract, List.extract_eq_take_drop, List.take_eq_take_iff,
    List.length_drop, Array.length_toList, size]
  omega

/-- Bytes that are stored from the start of a window on take the place of as many of its bytes. -/
theorem bytes_onto_store {window : Window} {bytes : Bytes} (hfit : bytes.length ≤ window.size) :
    (window.onto (store window.buffer window.start bytes)).bytes =
      bytes ++ window.bytes.drop bytes.length := by
  rcases Nat.eq_zero_or_pos bytes.length with hnone | hsome
  · rw [List.length_eq_zero_iff] at hnone
    rw [hnone]
    rfl
  have hroom : window.start + bytes.length ≤ window.buffer.size := by
    rw [size] at hfit
    omega
  have hsame : (window.onto (store window.buffer window.start bytes)).size = window.size := by
    simp only [onto, size, size_store]
  have hfront : (window.buffer.toList.take window.start).length = window.start := by
    rw [List.length_take, Array.length_toList]
    omega
  rw [bytes_eq_take_drop, hsame, bytes_eq_take_drop]
  simp only [onto]
  rw [toList_store hroom, List.append_assoc, List.drop_left' hfront, List.take_append,
    List.take_of_length_le hfit, List.drop_take, List.drop_drop]

end Window

namespace TagLength

/-! ### Byte by byte -/

/-- How writing a length byte by byte ends without having written it. -/
inductive Halt where
  /-- A fault of the window or of the length. -/
  | fault (cause : Fault)
  /-- A number that is no byte. -/
  | notByte (value : Int)
  /-- An index outside of the window. -/
  | outside (index : Nat)
  deriving DecidableEq, Repr

/-- Store a number as byte `index` of the stretch of the buffer from `start` up to `stop`. -/
def storeAt (start stop index : Nat) (value : Int) : EStateM Halt (Array UInt8) Unit := do
  let window : Window := { buffer := ← get, start, stop }
  if window.size ≤ index then throw (.outside index)
  else if value < 0 ∨ 255 < value then throw (.notByte value)
  else set (window.set index (UInt8.ofNat value.toNat)).buffer

/-- Write a length into the stretch of the buffer from `start` up to `stop`. -/
def writeAt (n : Int) (start stop : Nat) : EStateM Halt (Array UInt8) Nat := do
  let window : Window := { buffer := ← get, start, stop }
  if window.size ≠ windowSize then throw (.fault (.windowSize window.size))
  else
    match size n with
    | .error fault => throw (.fault fault)
    | .ok used =>
      if used = 1 then storeAt start stop 0 n
      else do
        storeAt start stop 0 (128 + n % 128)
        storeAt start stop 1 (n / 128)
      return used

/-- What writing came to, taken as what became of the buffer. -/
def afterwards (buffer : Array UInt8) : Except Fault Writing → EStateM.Result Halt (Array UInt8) Nat
  | .error fault => .error (.fault fault) buffer
  | .ok written => .ok written.used written.buffer

theorem get_eq (buffer : Array UInt8) :
    (get : EStateM Halt (Array UInt8) (Array UInt8)) buffer = .ok buffer buffer := rfl

theorem bind_of_eq_ok {α β : Type} {x : EStateM Halt (Array UInt8) α}
    {f : α → EStateM Halt (Array UInt8) β} {buffer buffer' : Array UInt8} {a : α}
    (h : x buffer = .ok a buffer') : (x >>= f) buffer = f a buffer' := by
  simp only [bind, EStateM.bind, h]

theorem storeAt_eq {buffer : Array UInt8} {start stop index : Nat} {value : Int}
    (hindex : index < ({ buffer, start, stop } : Window).size)
    (hbyte : 0 ≤ value ∧ value ≤ 255) :
    storeAt start stop index value buffer =
      .ok () (buffer.setIfInBounds (start + index) (UInt8.ofNat value.toNat)) := by
  rw [storeAt, bind_of_eq_ok (get_eq buffer),
    if_neg (Nat.not_le.mpr hindex), if_neg (by omega)]
  rfl

/-- **Writing byte by byte comes to what writing comes to**: the same length field in the buffer, or
the same fault and the buffer as it was. No number is stored that is no byte, and none outside of
the window. -/
theorem writeAt_eq (n : Int) (buffer : Array UInt8) (start stop : Nat) :
    writeAt n start stop buffer = afterwards buffer (write n { buffer, start, stop }) := by
  rw [writeAt, bind_of_eq_ok (get_eq buffer)]
  by_cases hsize : ({ buffer, start, stop } : Window).size = windowSize
  · rw [if_neg (not_not_intro hsize), write, if_neg (not_not_intro hsize)]
    cases hn : size n with
    | error fault => rfl
    | ok used =>
      have hzero : 0 < ({ buffer, start, stop } : Window).size := by
        rw [hsize]
        decide
      rcases size_eq_ok_iff.mp hn with ⟨hnonneg, hshort, rfl⟩ | ⟨hlong, hmax, rfl⟩
      · exact bind_of_eq_ok (storeAt_eq hzero ⟨hnonneg, by omega⟩)
      · have hone : 1 < (({ buffer, start, stop } : Window).set 0
            (UInt8.ofNat (128 + n % 128).toNat)).size := by
          rw [Window.size_set, hsize]
          decide
        have hfirst : storeAt start stop 0 (128 + n % 128) buffer = _ :=
          storeAt_eq hzero (by omega)
        have hsecond : storeAt start stop 1 (n / 128) _ = _ := storeAt_eq hone (by omega)
        refine (bind_of_eq_ok hfirst).trans ((bind_of_eq_ok hsecond).trans ?_)
        have hlow : (128 + n % 128).toNat = 128 + n.toNat % 128 := by omega
        have hhigh : (n / 128).toNat = n.toNat / 2 ^ 7 := by omega
        rw [hlow, hhigh, ← or_high_and_low, ← Nat.shiftRight_eq_div_pow]
        rfl
  · rw [if_pos hsize, write, if_pos hsize]
    rfl

/-! ### What is stored -/

/-- What a length leaves in a buffer, through a window of it. -/
structure StoresLength (n : Int) (window : Window) (used : Nat) (stored : Array UInt8) : Prop where
  /-- It takes as many bytes as its field has. -/
  size_eq : size n = .ok used
  /-- The buffer keeps its size. -/
  size_stored : stored.size = window.buffer.size
  /-- Bytes outside of those that the length takes stay. -/
  outside : ∀ j : Nat, j < window.start ∨ window.start + used ≤ j → stored[j]? = window.buffer[j]?
  /-- The length is read back. -/
  read_eq : read (window.onto stored).bytes = .ok { length := n.toNat, used }
  /-- A length of one byte is read back whatever stands in the second byte of the window. -/
  read_set : used = 1 → ∀ byte,
    read ((window.onto stored).set 1 byte).bytes = .ok { length := n.toNat, used }

/-- A length that is stored in a window of two bytes is read there, also where more bytes are stored
behind it. -/
theorem read_onto_store {window : Window} {form : Form} {length : Nat} {behind : Bytes}
    (hsize : window.size = windowSize) (h : form.Admits length)
    (hbehind : (form.bytes length ++ behind).length ≤ windowSize) :
    read (window.onto (store window.buffer window.start (form.bytes length ++ behind))).bytes =
      .ok { length, used := form.width } := by
  have hbytes := Window.bytes_onto_store (hsize ▸ hbehind)
  refine read_window_eq_ok_iff.mpr ⟨?_, form, h, rfl, ?_⟩
  · rw [Window.length_bytes, ← hsize]
    simp only [Window.onto, Window.size, size_store]
  · rw [hbytes, List.append_assoc]
    exact List.prefix_append _ _

theorem storesLength_of_admits {window : Window} {length : Nat} (hsize : window.size = windowSize)
    (h : (Form.least length).Admits length) :
    StoresLength length window (Form.least length).width
      (store window.buffer window.start ((Form.least length).bytes length)) where
  size_eq := size_eq_ok_iff_least.mpr ⟨h, rfl⟩
  size_stored := size_store ..
  outside := by
    intro j hj
    exact getElem?_store_of_outside (by rwa [Form.length_bytes])
  read_eq := by
    have hfit : ((Form.least length).bytes length ++ []).length ≤ windowSize := by
      rw [List.append_nil]
      exact Form.length_bytes_le _ length
    have hread := read_onto_store hsize h hfit
    rwa [List.append_nil] at hread
  read_set := by
    intro hone byte
    -- The byte behind a length of one byte might as well have been stored with it.
    have hstore : ((window.onto (store window.buffer window.start
        ((Form.least length).bytes length))).set 1 byte) =
        window.onto (store window.buffer window.start
          ((Form.least length).bytes length ++ [byte])) := by
      rw [store_append, Form.length_bytes, hone]
      rfl
    rw [hstore]
    refine read_onto_store hsize h ?_
    rw [List.length_append, Form.length_bytes, hone]
    exact Nat.le_refl 2

/-- A length below zero or above what two bytes can express is refused, as a length if it can be
written. -/
theorem exists_size_eq_error {n : Int} (h : n < 0 ∨ 32767 < n) :
    ∃ fault, size n = .error fault ∧
      fault.errorClass = if n.natAbs < 10 ^ 4300 then .lengthEncoding else .value := by
  rcases h with hneg | hlarge
  · exact ⟨_, size_eq_error_iff.mpr (.inl ⟨hneg, rfl⟩), Fault.classNaming_eq n _⟩
  · exact ⟨_, size_eq_error_iff.mpr (.inr ⟨hlarge, rfl⟩), Fault.classNaming_eq n _⟩

theorem writeAt_of_size_eq_error {n : Int} {buffer : Array UInt8} {start stop : Nat} {fault : Fault}
    (hsize : ({ buffer, start, stop } : Window).size = windowSize) (h : size n = .error fault) :
    writeAt n start stop buffer = .error (.fault fault) buffer := by
  rw [writeAt_eq, (write_eq_error_iff hsize rfl).mpr h]
  rfl

/-- A length that some form spells takes the fewest bytes in its shortest form. -/
theorem width_least_le {form : Form} {length : Nat} (h : form.Admits length) :
    (Form.least length).width ≤ form.width := by
  rw [Form.least]
  split
  · cases form <;> decide
  · next hlong =>
    cases form with
    | short => exact absurd h hlong
    | long => exact Nat.le_refl 2

/-- A length that is read and written again leaves the window as it was exactly when it had been
spelled in its shortest form. -/
theorem rewrite_eq_iff {window : Window} {reading : Reading} (hsize : window.size = windowSize)
    (hread : read window.bytes = .ok reading) :
    (window.onto (store window.buffer window.start
        ((Form.least reading.length).bytes reading.length))).bytes = window.bytes ↔
      (Form.least reading.length).width = reading.used := by
  obtain ⟨-, form, hadmits, hused, hbegins⟩ := read_window_eq_ok_iff.mp hread
  constructor
  · intro hsame
    have hback := (storesLength_of_admits hsize hadmits.least).read_eq
    rw [hsame, hread, Except.ok.injEq] at hback
    exact (congrArg Reading.used hback).symm
  · intro hwidth
    obtain rfl := Form.width_inj.mp (hwidth.trans hused)
    rw [Window.bytes_onto_store (hsize ▸ Form.length_bytes_le _ _)]
    exact List.prefix_iff_eq_append.mp hbegins

/-- **Length fields in a shared buffer are exact and local.** Writing a length into a stretch of a
buffer is refused for the size of the stretch first and then for the length, and leaves the buffer
as it was. The length is refused as a length if its absolute value is below `10 ^ 4300`, and else
only as a value. Otherwise it is stored in the bytes that its field takes, no other byte changes, and
it is read back. Every stretch of two bytes is read as some length, in a field that is no shorter
than the shortest one, and writing that length leaves the stretch as it was exactly when the field is
the shortest one. -/
theorem write_exact_and_local (buffer : Array UInt8) (start stop : Nat) (n : Int) :
    let window : Window := { buffer, start, stop }
    writeAt n start stop buffer = afterwards buffer (write n window) ∧
    (window.size ≠ 2 →
      writeAt n start stop buffer = .error (.fault (.windowSize window.size)) buffer ∧
        (Fault.windowSize window.size).errorClass = .invalidLengthBuffer) ∧
    (window.size = 2 → n < 0 ∨ 32767 < n →
      ∃ fault, writeAt n start stop buffer = .error (.fault fault) buffer ∧
        fault.errorClass = if n.natAbs < 10 ^ 4300 then .lengthEncoding else .value) ∧
    (window.size = 2 → 0 ≤ n → n ≤ 32767 →
      ∃ used stored, writeAt n start stop buffer = .ok used stored ∧
        StoresLength n window used stored) ∧
    (window.size = 2 →
      ∃ reading used stored, read window.bytes = .ok reading ∧ reading.length ≤ 32767 ∧
        size reading.length = .ok used ∧ used ≤ reading.used ∧
        writeAt reading.length start stop buffer = .ok used stored ∧
        ((window.onto stored).bytes = window.bytes ↔ used = reading.used)) := by
  intro window
  have hwrite (n : Int) : writeAt n start stop buffer = afterwards buffer (write n window) :=
    writeAt_eq n buffer start stop
  refine ⟨hwrite n, ?_, ?_, ?_, ?_⟩
  · intro hsize
    rw [hwrite, write_of_size_ne hsize]
    exact ⟨rfl, rfl⟩
  · intro hsize hbad
    obtain ⟨fault, hfault, hclass⟩ := exists_size_eq_error hbad
    exact ⟨fault, writeAt_of_size_eq_error hsize hfault, hclass⟩
  · intro hsize hnonneg hmax
    obtain ⟨length, rfl⟩ := Int.eq_ofNat_of_zero_le hnonneg
    have hadmits := admits_least_iff.mpr (Int.ofNat_le.mp hmax)
    rw [hwrite, write_eq_store hsize rfl hadmits]
    exact ⟨_, _, rfl, storesLength_of_admits hsize hadmits⟩
  · intro hsize
    obtain ⟨reading, hread⟩ := exists_read ((Window.length_bytes window).trans hsize)
    obtain ⟨-, form, hadmits, hused, -⟩ := read_window_eq_ok_iff.mp hread
    refine ⟨reading, _, _, hread, admits_least_iff.mp hadmits.least,
      size_eq_ok_iff_least.mpr ⟨hadmits.least, rfl⟩, hused ▸ width_least_le hadmits, ?_,
      rewrite_eq_iff hsize hread⟩
    rw [hwrite, write_eq_store hsize rfl hadmits.least]
    rfl

/-- In a buffer of four bytes, a stretch that reaches past the end has one byte left and takes no
length. The stretch before it spells 5 in two bytes: 32768 leaves it alone, 300 fills it, and 5 is
written back into its first byte. -/
theorem write_exact_and_local_overlong :
    (({ buffer := #[7, 133, 0, 9], start := 3, stop := 9 } : Window).size ≠ 2 ∧
      writeAt 300 3 9 #[7, 133, 0, 9] = .error (.fault (.windowSize 1)) #[7, 133, 0, 9]) ∧
    ({ buffer := #[7, 133, 0, 9], start := 1, stop := 3 } : Window).size = 2 ∧
      (∃ fault, writeAt 32768 1 3 #[7, 133, 0, 9] = .error (.fault fault) #[7, 133, 0, 9] ∧
        fault.errorClass = .lengthEncoding) ∧
      (writeAt 300 1 3 #[7, 133, 0, 9] = .ok 2 #[7, 172, 2, 9] ∧
        StoresLength 300 { buffer := #[7, 133, 0, 9], start := 1, stop := 3 } 2
          #[7, 172, 2, 9]) ∧
      read [133, 0] = .ok { length := 5, used := 2 } ∧
      writeAt 5 1 3 #[7, 133, 0, 9] = .ok 1 #[7, 5, 0, 9] ∧
      ¬ (({ buffer := #[7, 5, 0, 9], start := 1, stop := 3 } : Window).bytes = [133, 0]) := by
  have hwritten : (32768 : Int).natAbs < 10 ^ 4300 :=
    natAbs_lt_ten_pow (j := 5) (by decide) (by decide)
  have hclipped : ({ buffer := #[7, 133, 0, 9], start := 3, stop := 9 } : Window).size ≠ 2 := by
    decide
  have hsize : ({ buffer := #[7, 133, 0, 9], start := 1, stop := 3 } : Window).size = 2 := by
    decide
  obtain ⟨-, hrefused, -⟩ := write_exact_and_local #[7, 133, 0, 9] 3 9 300
  obtain ⟨-, -, hlarge, -⟩ := write_exact_and_local #[7, 133, 0, 9] 1 3 32768
  obtain ⟨-, -, -, hstored, hrewritten⟩ := write_exact_and_local #[7, 133, 0, 9] 1 3 300
  refine ⟨⟨hclipped, (hrefused hclipped).1⟩, hsize, ?_, ?_, ?_⟩
  · obtain ⟨fault, hwrite, hclass⟩ := hlarge hsize (.inr (by decide))
    rw [if_pos hwritten] at hclass
    exact ⟨fault, hwrite, hclass⟩
  · obtain ⟨used, stored, hwrite, hstores⟩ := hstored hsize (by decide) (by decide)
    cases hwrite
    exact ⟨rfl, hstores⟩
  · obtain ⟨reading, used, stored, hread, -, -, -, hwrite, hsame⟩ := hrewritten hsize
    cases hread
    cases hwrite
    exact ⟨rfl, rfl, fun h => absurd (hsame.mp h) (by decide)⟩

/-- A length of 4301 digits is too large, and the text that would say so cannot name it: the refusal
is not one of a length. -/
theorem writeAt_of_many_digits :
    writeAt (10 ^ 4300) 0 2 #[0, 0] =
        .error (.fault (.lengthTooLarge (10 ^ 4300))) #[0, 0] ∧
      (Fault.lengthTooLarge (10 ^ 4300)).errorClass = .value ∧
      (Fault.lengthTooLarge (10 ^ 4300)).message =
        "Exceeds the limit (4300 digits) for integer string conversion; " ++
          "use sys.set_int_max_str_digits() to increase the limit" := by
  have hlong := not_natAbs_ten_pow_lt 4300
  have hrefused (n : Int) (hn : 32767 < n) :
      writeAt n 0 2 #[0, 0] = .error (.fault (.lengthTooLarge n)) #[0, 0] :=
    writeAt_of_size_eq_error rfl (size_eq_error_iff.mpr (.inr ⟨hn, rfl⟩))
  refine ⟨hrefused _ (lt_ten_pow (j := 5) (by decide) (by omega)), ?_, ?_⟩
  · exact (Fault.classNaming_eq _ _).trans (if_neg hlong)
  · exact (Fault.naming_eq _ _ _).trans ((if_neg hlong).trans Text.Numeral.limitText_empty)

end TagLength

end TunerWire

import Mathlib.Data.List.Basic
import TunerWire.Packet
import TunerWire.Proofs.HexText

/-!
# The line of a packet

A packet is shown in one line, and the line shows everything: no two packets have the same line
(`Packet.text_inj`). The line is taken apart from the front. A number ends at the comma behind it,
as no digit and no sign is a comma, and its padding does not change its value. A payload ends at the
parenthesis behind it, and no payload of bytes begins like the word for an empty one. Behind an
attribute the list goes on with a comma or ends with a bracket.
-/

namespace TunerWire

namespace Text

/-- A text is cut in one way before the first place of a character. -/
theorem append_cons_inj {c : Char} {front front' rest rest' : List Char} (hfront : c ∉ front)
    (hfront' : c ∉ front') (h : front ++ c :: rest = front' ++ c :: rest') :
    front = front' ∧ rest = rest' := by
  induction front generalizing front' with
  | nil =>
    cases front' with
    | nil => exact ⟨rfl, (List.cons.inj h).2⟩
    | cons d front' => exact absurd ((List.cons.inj h).1 ▸ List.mem_cons_self) hfront'
  | cons d front ih =>
    cases front' with
    | nil => exact absurd ((List.cons.inj h).1 ▸ List.mem_cons_self) hfront
    | cons d' front' =>
      obtain ⟨rfl, htail⟩ := List.cons.inj h
      obtain ⟨rfl, hrest⟩ := ih (mt (List.mem_cons_of_mem d) hfront)
        (mt (List.mem_cons_of_mem d) hfront') htail
      exact ⟨rfl, hrest⟩

/-! ### Numbers -/

/-- Take a hexadecimal digit to a number; other characters count as zeros. -/
def pushDigit (value : Nat) (c : Char) : Nat := 16 * value + (Hex.digit? c).getD 0

theorem digit?_digitChar_upper {d : Nat} (h : d < 16) : Hex.digit? (digitChar 'A' d) = some d := by
  have hall : ∀ d < 16, Hex.digit? (digitChar 'A' d) = some d := by decide
  exact hall d h

/-- The digits of a padded number spell its absolute value: sign and padding add nothing. -/
theorem foldl_paddedHex (width : Nat) (z : Int) :
    (paddedHex width z).foldl pushDigit 0 = z.natAbs := by
  have hsign : (sign z).foldl pushDigit 0 = 0 := by
    unfold sign
    split <;> rfl
  have hpadding (count : Nat) : (List.replicate count '0').foldl pushDigit 0 = 0 := by
    induction count with
    | zero => rfl
    | succ count ih => exact ih
  have hdigits : ((digits 16 z.natAbs).map (digitChar 'A')).foldl pushDigit 0 =
      (digits 16 z.natAbs).foldl (fun value d => 16 * value + d) 0 := by
    rw [List.foldl_map]
    refine List.foldl_ext _ _ _ fun value d hd => ?_
    rw [pushDigit, digit?_digitChar_upper (lt_of_mem_digits (by decide) hd), Option.getD_some]
  rw [paddedHex, List.foldl_append, List.foldl_append, hsign, hpadding, hdigits,
    foldl_digits (by decide)]

/-- A padded number is a minus sign, if the number is negative, and digits. -/
theorem mem_paddedHex {width : Nat} {z : Int} {c : Char} (h : c ∈ paddedHex width z) :
    c = '-' ∧ z < 0 ∨ (Hex.digit? c).isSome := by
  rw [paddedHex, List.mem_append, List.mem_append] at h
  rcases h with (hsign | hzero) | hdigit
  · unfold sign at hsign
    split at hsign
    · next hneg => exact .inl ⟨List.mem_singleton.mp hsign, hneg⟩
    · cases hsign
  · rw [List.eq_of_mem_replicate hzero]
    exact .inr rfl
  · obtain ⟨d, hd, rfl⟩ := List.mem_map.mp hdigit
    rw [digit?_digitChar_upper (lt_of_mem_digits (by decide) hd)]
    exact .inr rfl

theorem minus_mem_paddedHex_iff {width : Nat} {z : Int} : '-' ∈ paddedHex width z ↔ z < 0 := by
  constructor
  · intro h
    rcases mem_paddedHex h with ⟨-, hneg⟩ | hdigit
    · exact hneg
    · cases hdigit
  · intro hneg
    rw [paddedHex, sign, if_pos hneg]
    exact List.mem_cons_self

theorem comma_notMem_paddedHex (width : Nat) (z : Int) : ',' ∉ paddedHex width z := by
  intro h
  rcases mem_paddedHex h with ⟨hcomma, -⟩ | hdigit
  · cases hcomma
  · cases hdigit

/-- A padded number shows the number. -/
theorem paddedHex_inj {width : Nat} {z z' : Int} (h : paddedHex width z = paddedHex width z') :
    z = z' := by
  have habs : z'.natAbs = z.natAbs := by
    rw [← foldl_paddedHex width, ← h, foldl_paddedHex]
  have hsign : z' < 0 ↔ z < 0 := by
    rw [← minus_mem_paddedHex_iff, ← h, minus_mem_paddedHex_iff]
  omega

end Text

open Text

/-! ### Attributes -/

theorem isSome_digit?_of_mem_pair {byte : UInt8} {c : Char} (h : c ∈ Hex.pair byte) :
    (Hex.digit? c).isSome := by
  have hbyte := byte.toNat_lt
  rcases List.mem_pair.mp h with rfl | rfl
  · rw [Hex.digit?_digitChar (by omega)]
    rfl
  · rw [Hex.digit?_digitChar (by omega)]
    rfl

theorem mem_spaced {bytes : Bytes} {c : Char} (h : c ∈ Hex.spaced bytes) :
    c = ' ' ∨ (Hex.digit? c).isSome := by
  induction bytes with
  | nil => cases h
  | cons byte rest ih =>
    cases rest with
    | nil => exact .inr (isSome_digit?_of_mem_pair h)
    | cons next rest =>
      rw [Hex.spaced_cons_cons, List.mem_append, List.mem_cons] at h
      rcases h with hpair | hspace | hrest
      · exact .inr (isSome_digit?_of_mem_pair hpair)
      · exact .inl hspace
      · exact ih hrest

theorem parenthesis_notMem_spaced {c : Char} (hc : c = '(' ∨ c = ')') (bytes : Bytes) :
    c ∉ Hex.spaced bytes := by
  intro h
  rcases hc with rfl | rfl
  all_goals
    rcases mem_spaced h with hspace | hdigit
    · cases hspace
    · cases hdigit

/-- Bytes in one line do not begin like the word for no bytes. -/
theorem spaced_append_ne {bytes : Bytes} (h : bytes ≠ []) (rest rest' : List Char) :
    Hex.spaced bytes ++ rest ≠ '(' :: rest' := by
  intro heq
  cases hspaced : Hex.spaced bytes with
  | nil => exact h (Hex.spaced_inj hspaced)
  | cons c line =>
    rw [hspaced] at heq
    obtain rfl : c = '(' := (List.cons.inj heq).1
    exact parenthesis_notMem_spaced (.inl rfl) bytes (hspaced ▸ List.mem_cons_self)

/-- The payload of an attribute ends at the parenthesis behind it. -/
theorem Attribute.payloadText_append_inj {a b : Attribute} {rest rest' : List Char}
    (h : a.payloadText ++ ')' :: rest = b.payloadText ++ ')' :: rest') :
    a.payload = b.payload ∧ rest = rest' := by
  have hempty : "(empty)".toList = '(' :: "empty)".toList := rfl
  unfold Attribute.payloadText at h
  split at h
  · next ha =>
    split at h
    · next hb =>
      rw [List.append_right_inj] at h
      exact ⟨ha.trans hb.symm, (List.cons.inj h).2⟩
    · next hb =>
      rw [hempty] at h
      exact absurd h.symm (spaced_append_ne hb _ _)
  · next ha =>
    split at h
    · rw [hempty] at h
      exact absurd h (spaced_append_ne ha _ _)
    · obtain ⟨hspaced, hrest⟩ := append_cons_inj (parenthesis_notMem_spaced (.inr rfl) a.payload)
        (parenthesis_notMem_spaced (.inr rfl) b.payload) h
      exact ⟨Hex.spaced_inj hspaced, hrest⟩

/-- An attribute ends where its line does, and the line shows it. -/
theorem Attribute.text_append_inj {a b : Attribute} {rest rest' : List Char}
    (h : a.text ++ rest = b.text ++ rest') : a = b ∧ rest = rest' := by
  have hsplit (a : Attribute) (rest : List Char) :
      a.text ++ rest = "AttributeBlock(kind=0x".toList ++ (paddedHex 2 a.kind ++ ',' ::
        (" payload=".toList ++ (a.payloadText ++ ')' :: rest))) := by
    have hcomma : ", payload=".toList = ',' :: " payload=".toList := rfl
    unfold Attribute.text
    simp only [hcomma, List.append_assoc, List.cons_append, List.nil_append]
  rw [hsplit, hsplit, List.append_right_inj] at h
  obtain ⟨hkind, htail⟩ := append_cons_inj (comma_notMem_paddedHex 2 a.kind)
    (comma_notMem_paddedHex 2 b.kind) h
  rw [List.append_right_inj] at htail
  obtain ⟨hpayload, hrest⟩ := payloadText_append_inj htail
  obtain ⟨kind, payload⟩ := a
  obtain ⟨kind', payload'⟩ := b
  obtain rfl : kind = kind' := paddedHex_inj hkind
  obtain rfl : payload = payload' := hpayload
  exact ⟨rfl, hrest⟩

/-! ### Packets -/

/-- What stands behind an attribute in the line of a packet: the attributes that follow, each behind
a comma, and the end of the line. -/
def textBehind (attributes : List Attribute) : List Char :=
  attributes.flatMap (fun a => ", ".toList ++ a.text) ++ "])".toList

theorem textBehind_cons (a : Attribute) (rest : List Attribute) :
    textBehind (a :: rest) = ", ".toList ++ (a.text ++ textBehind rest) := by
  simp [textBehind]

theorem textBehind_inj {l l' : List Attribute} (h : textBehind l = textBehind l') : l = l' := by
  induction l generalizing l' with
  | nil =>
    cases l' with
    | nil => rfl
    | cons b rest' => cases h
  | cons a rest ih =>
    cases l' with
    | nil => cases h
    | cons b rest' =>
      rw [textBehind_cons, textBehind_cons, List.append_right_inj] at h
      obtain ⟨rfl, hrest⟩ := Attribute.text_append_inj h
      rw [ih hrest]

theorem intercalate_append_eq (a : Attribute) (rest : List Attribute) :
    ", ".toList.intercalate ((a :: rest).map Attribute.text) ++ "])".toList =
      a.text ++ textBehind rest := by
  induction rest generalizing a with
  | nil =>
    rw [List.map_cons, List.map_nil, List.intercalate_singleton]
    rfl
  | cons b rest ih =>
    rw [List.map_cons, List.map_cons, List.intercalate_cons_cons, ← List.map_cons,
      List.append_assoc, ih, textBehind_cons, List.append_assoc]

theorem attributesText_inj {l l' : List Attribute}
    (h : ", ".toList.intercalate (l.map Attribute.text) ++ "])".toList =
      ", ".toList.intercalate (l'.map Attribute.text) ++ "])".toList) : l = l' := by
  cases l with
  | nil =>
    cases l' with
    | nil => rfl
    | cons b rest' =>
      rw [intercalate_append_eq] at h
      cases h
  | cons a rest =>
    cases l' with
    | nil =>
      rw [intercalate_append_eq] at h
      cases h
    | cons b rest' =>
      rw [intercalate_append_eq, intercalate_append_eq] at h
      obtain ⟨rfl, hrest⟩ := Attribute.text_append_inj h
      rw [textBehind_inj hrest]

/-- **The line of a packet shows the packet.** Two packets have the same line exactly when they are
equal: same type, same attributes in the same order, with the same kinds and payloads. -/
theorem Packet.text_inj (p q : Packet) : p.text = q.text ↔ p = q := by
  constructor
  · intro h
    have hsplit (p : Packet) : p.text = "Packet(type=0x".toList ++ (paddedHex 4 p.type ++ ',' ::
        (" attributes=[".toList ++ (", ".toList.intercalate (p.attributes.map Attribute.text) ++
          "])".toList))) := by
      have hcomma : ", attributes=[".toList = ',' :: " attributes=[".toList := rfl
      unfold Packet.text
      simp only [hcomma, List.append_assoc, List.cons_append]
    rw [hsplit, hsplit, List.append_right_inj] at h
    obtain ⟨htype, htail⟩ := append_cons_inj (comma_notMem_paddedHex 4 p.type)
      (comma_notMem_paddedHex 4 q.type) h
    rw [List.append_right_inj] at htail
    have hattributes := attributesText_inj htail
    obtain ⟨type, attributes⟩ := p
    obtain ⟨type', attributes'⟩ := q
    obtain rfl : type = type' := paddedHex_inj htype
    obtain rfl : attributes = attributes' := hattributes
    rfl
  · rintro rfl
    rfl

end TunerWire

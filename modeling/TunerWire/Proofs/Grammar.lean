import Mathlib.Data.List.Basic
import TunerWire.Frame.Decode
import TunerWire.Frame.Spelling

/-!
# The grammar of a section

The attributes of a section are read one after the other, and each may have spelled the length of
its payload in either form. This module shows that reading finds exactly the attributes that were
laid out: `read_window_eq_ok_iff` for a length, `readAttribute_of_fits` and `fits_of_readAttribute`
for one attribute, `readAttributes_eq_ok_iff` for a section.

The window on a tag length may reach into the trailer. An attribute that is accepted has taken
nothing from there: its length is spelled within the section, and so is its payload
(`bytes_of_read_lengthWindow`). As reading has one result, the bytes of a section determine its
attributes and their forms (`sectionBytes_inj`).
-/

namespace TunerWire.Frame

/-! ### Forms -/

/-- How many bytes a form takes. -/
def Form.width : Form → Nat
  | .short => 1
  | .long => 2

@[simp] theorem Form.length_bytes (form : Form) (length : Nat) :
    (form.bytes length).length = form.width := by
  cases form <;> rfl

theorem Form.width_inj {form form' : Form} : form.width = form'.width ↔ form = form' := by
  cases form <;> cases form' <;> simp [Form.width]

theorem Form.length_bytes_le (form : Form) (length : Nat) :
    (form.bytes length).length ≤ TagLength.windowSize := by
  cases form with
  | short => exact Nat.le_succ 1
  | long => exact Nat.le_refl 2

theorem exists_form_of_read_pair {first second : UInt8} {tag : TagLength.Reading}
    (h : TagLength.read [first, second] = .ok tag) :
    ∃ form : Form, form.Admits tag.length ∧ tag.used = form.width ∧
      form.bytes tag.length <+: [first, second] := by
  have hfirst := first.toNat_lt
  have hsecond := second.toNat_lt
  rw [TagLength.read_pair, Except.ok.injEq] at h
  subst h
  by_cases hshort : first.toNat < 128
  · rw [if_pos hshort]
    refine ⟨.short, show first.toNat ≤ 127 by omega, rfl, [second], ?_⟩
    rw [Form.bytes, UInt8.ofNat_toNat, List.singleton_append]
  · rw [if_neg hshort]
    refine ⟨.long, show first.toNat % 128 + 128 * second.toNat ≤ 32767 by omega, rfl, [], ?_⟩
    have hlow : 128 + (first.toNat % 128 + 128 * second.toNat) % 128 = first.toNat := by omega
    have hhigh : (first.toNat % 128 + 128 * second.toNat) / 128 = second.toNat := by omega
    rw [Form.bytes, hlow, hhigh, UInt8.ofNat_toNat, UInt8.ofNat_toNat, List.append_nil]

theorem read_pair_of_form {first second : UInt8} {form : Form} {length : Nat}
    (hadmits : form.Admits length) (hbegins : form.bytes length <+: [first, second]) :
    TagLength.read [first, second] = .ok { length, used := form.width } := by
  obtain ⟨rest, hwindow⟩ := hbegins
  rw [TagLength.read_pair, Except.ok.injEq]
  cases form with
  | short =>
    have hle : length ≤ 127 := hadmits
    obtain rfl : UInt8.ofNat length = first := (List.cons.inj hwindow).1
    rw [UInt8.toNat_ofNat', Nat.mod_eq_of_lt (by omega), if_pos (by omega)]
    rfl
  | long =>
    have hle : length ≤ 32767 := hadmits
    obtain ⟨hlow, hrest⟩ := List.cons.inj hwindow
    have hhigh := (List.cons.inj hrest).1
    replace hlow : first.toNat = 128 + length % 128 := by
      rw [← hlow, UInt8.toNat_ofNat']
      omega
    replace hhigh : second.toNat = length / 128 := by
      rw [← hhigh, UInt8.toNat_ofNat']
      omega
    have hsum : (128 + length % 128) % 128 + 128 * (length / 128) = length := by omega
    rw [hlow, hhigh, if_neg (by omega), hsum]
    rfl

/-- **Reading a window finds the form that it begins with**, and the length that this form spells
there. -/
theorem read_window_eq_ok_iff {window : Bytes} {tag : TagLength.Reading} :
    TagLength.read window = .ok tag ↔
      window.length = TagLength.windowSize ∧ ∃ form : Form, form.Admits tag.length ∧
        tag.used = form.width ∧ form.bytes tag.length <+: window := by
  by_cases hsize : window.length = TagLength.windowSize
  · obtain ⟨first, second, rfl⟩ := List.length_eq_two.mp hsize
    constructor
    · exact fun h => ⟨hsize, exists_form_of_read_pair h⟩
    · rintro ⟨-, form, hadmits, hused, hbegins⟩
      rw [read_pair_of_form hadmits hbegins, ← hused]
  · rw [TagLength.read_of_length_ne hsize]
    constructor
    · intro h
      cases h
    · exact fun h => absurd h.1 hsize

theorem exists_read {window : Bytes} (h : window.length = TagLength.windowSize) :
    ∃ tag, TagLength.read window = .ok tag := by
  obtain ⟨first, second, rfl⟩ := List.length_eq_two.mp h
  exact ⟨_, TagLength.read_pair first second⟩

/-- Before a trailer of two bytes or more, a length is read, whatever it is. -/
theorem exists_read_lengthWindow {trailer : Bytes}
    (htrailer : TagLength.windowSize ≤ trailer.length) (remaining : Bytes) :
    ∃ tag, TagLength.read (lengthWindow trailer remaining) = .ok tag :=
  exists_read (length_lengthWindow htrailer remaining)

/-- The window on a tag length is a slice of what follows, within the section and behind it. -/
theorem lengthWindow_eq_take (trailer remaining : Bytes) :
    lengthWindow trailer remaining = (remaining ++ trailer).take TagLength.windowSize := by
  have hrest : TagLength.windowSize - min TagLength.windowSize remaining.length =
      TagLength.windowSize - remaining.length := by omega
  rw [lengthWindow, List.take_append, List.take_take, Nat.min_self, List.length_take, hrest,
    List.take_append]

theorem read_lengthWindow_bytes {trailer : Bytes} (htrailer : TagLength.windowSize ≤ trailer.length)
    {form : Form} {length : Nat} (h : form.Admits length) (rest : Bytes) :
    TagLength.read (lengthWindow trailer (form.bytes length ++ rest)) =
      .ok { length, used := form.width } := by
  refine read_window_eq_ok_iff.mpr ⟨length_lengthWindow htrailer _, form, h, rfl, ?_⟩
  rw [lengthWindow_eq_take, List.append_assoc, List.prefix_take_iff]
  exact ⟨List.prefix_append _ _, form.length_bytes_le length⟩

/-- A length that is read is spelled in one of the forms, from the rest of the section on and, where
the section ends, into the trailer. -/
theorem exists_form_of_read_lengthWindow {trailer remaining : Bytes} {tag : TagLength.Reading}
    (h : TagLength.read (lengthWindow trailer remaining) = .ok tag) :
    ∃ form : Form, form.Admits tag.length ∧ tag.used = form.width ∧
      form.bytes tag.length <+: remaining ++ trailer := by
  obtain ⟨-, form, hadmits, hused, hbegins⟩ := read_window_eq_ok_iff.mp h
  rw [lengthWindow_eq_take, List.prefix_take_iff] at hbegins
  exact ⟨form, hadmits, hused, hbegins.1⟩

/-- A length that is read within the rest of the section is spelled in one of the forms there: no
byte of it comes from the trailer. -/
theorem bytes_of_read_lengthWindow {trailer remaining : Bytes} {tag : TagLength.Reading}
    (h : TagLength.read (lengthWindow trailer remaining) = .ok tag)
    (hwithin : tag.used ≤ remaining.length) :
    ∃ (form : Form) (rest : Bytes), form.Admits tag.length ∧ tag.used = form.width ∧
      remaining = form.bytes tag.length ++ rest := by
  obtain ⟨form, hadmits, hused, hbegins⟩ := exists_form_of_read_lengthWindow h
  -- As many bytes remain as the form takes, so it ends before the trailer.
  obtain ⟨rest, hremaining⟩ := List.prefix_of_prefix_length_le hbegins
    (List.prefix_append remaining trailer) (by rw [Form.length_bytes]; omega)
  exact ⟨form, rest, hadmits, hused, hremaining.symm⟩

/-! ### Attributes -/

theorem length_attributeBytes (form : Form) (a : Attribute) :
    (attributeBytes form a).length = 1 + form.width + a.payload.length := by
  rw [attributeBytes, List.length_cons, List.length_append, Form.length_bytes]
  omega

/-- Once its length is read, an attribute takes the bytes of the length and those of the payload,
and it is refused where fewer remain. -/
theorem readAttribute_of_read {trailer remaining : Bytes} {tag : TagLength.Reading}
    (h : TagLength.read (lengthWindow trailer remaining) = .ok tag) (kind : UInt8) :
    readAttribute trailer kind remaining =
      if remaining.length < tag.used + tag.length then
        .error (.attributeOverrun kind tag.length (remaining.length - tag.used))
      else
        .ok { value := { kind := kind.toNat, payload := (remaining.drop tag.used).take tag.length },
              used := tag.used + tag.length } := by
  have hshort : (remaining.take (tag.used + tag.length)).length < tag.used + tag.length ↔
      remaining.length < tag.used + tag.length := by
    rw [List.length_take]
    omega
  have hpayload : (remaining.take (tag.used + tag.length)).drop tag.used =
      (remaining.drop tag.used).take tag.length := by
    rw [List.drop_take, Nat.add_sub_cancel_left]
  simp only [readAttribute, h, hshort, hpayload]

theorem exists_read_of_readAttribute {trailer remaining : Bytes} {kind : UInt8}
    {reading : AttributeReading} (h : readAttribute trailer kind remaining = .ok reading) :
    ∃ tag, TagLength.read (lengthWindow trailer remaining) = .ok tag ∧
      tag.used + tag.length ≤ remaining.length ∧
      reading =
        { value := { kind := kind.toNat, payload := (remaining.drop tag.used).take tag.length },
          used := tag.used + tag.length } := by
  cases hread : TagLength.read (lengthWindow trailer remaining) with
  | error fault =>
    simp only [readAttribute, hread] at h
    cases h
  | ok tag =>
    rw [readAttribute_of_read hread] at h
    split at h
    · cases h
    · next hfit => exact ⟨tag, rfl, Nat.not_lt.mp hfit, (Except.ok.inj h).symm⟩

/-- An attribute that fits its fields is read from its bytes, whatever follows them. -/
theorem readAttribute_of_fits {trailer : Bytes} (htrailer : TagLength.windowSize ≤ trailer.length)
    {form : Form} {a : Attribute} (h : Fits form a) (rest : Bytes) :
    readAttribute trailer (UInt8.ofNat a.kind.toNat)
        (form.bytes a.payload.length ++ a.payload ++ rest) =
      .ok { value := a, used := form.width + a.payload.length } := by
  obtain ⟨hkind, hkind', hlength⟩ := h
  have hvalue : ((UInt8.ofNat a.kind.toNat).toNat : Int) = a.kind := by
    rw [UInt8.toNat_ofNat']
    omega
  rw [List.append_assoc, readAttribute_of_read (read_lengthWindow_bytes htrailer hlength _),
    if_neg (by simp only [List.length_append, Form.length_bytes]; omega)]
  simp only [List.drop_left' (Form.length_bytes _ _), List.take_left, hvalue]

/-- What is read as an attribute was laid out as one, and it ends before the trailer. -/
theorem fits_of_readAttribute {trailer remaining : Bytes} {kind : UInt8}
    {reading : AttributeReading} (h : readAttribute trailer kind remaining = .ok reading) :
    ∃ form rest, Fits form reading.value ∧
      kind :: remaining = attributeBytes form reading.value ++ rest ∧
      rest = remaining.drop reading.used := by
  -- That the attribute fits what remains is all that keeps it out of the trailer.
  obtain ⟨tag, hread, hfit, rfl⟩ := exists_read_of_readAttribute h
  obtain ⟨form, rest, hadmits, hused, rfl⟩ := bytes_of_read_lengthWindow hread (by omega)
  rw [List.length_append, Form.length_bytes] at hfit
  have hrest : (form.bytes tag.length ++ rest).drop tag.used = rest := by
    rw [hused]
    exact List.drop_left' (Form.length_bytes form tag.length)
  have hlength : (rest.take tag.length).length = tag.length := by
    rw [List.length_take]
    omega
  simp only [← List.drop_drop, hrest]
  refine ⟨form, rest.drop tag.length, ⟨Int.natCast_nonneg _, ?_, ?_⟩, ?_, rfl⟩
  · have := kind.toNat_lt
    simp only
    omega
  · simp only
    rwa [hlength]
  · rw [attributeBytes, hlength, Int.toNat_natCast, UInt8.ofNat_toNat, List.cons_append,
      List.append_assoc, List.take_append_drop]

/-- The bytes of an attribute show where it ends and how its length is spelled. -/
theorem attributeBytes_append_inj {form form' : Form} {a a' : Attribute} {rest rest' : Bytes}
    (h : Fits form a) (h' : Fits form' a')
    (heq : attributeBytes form a ++ rest = attributeBytes form' a' ++ rest') :
    form = form' ∧ a = a' ∧ rest = rest' := by
  -- Both sides are read, before any trailer, and reading has one result.
  have htrailer : TagLength.windowSize ≤ (Octets.littleEndian 4 0).length := by decide
  obtain ⟨hkind, hbytes⟩ : UInt8.ofNat a.kind.toNat = UInt8.ofNat a'.kind.toNat ∧
      form.bytes a.payload.length ++ a.payload ++ rest =
        form'.bytes a'.payload.length ++ a'.payload ++ rest' := List.cons.inj heq
  have hread := readAttribute_of_fits htrailer h rest
  rw [hkind] at hread
  have hread' := readAttribute_of_fits htrailer h' rest'
  rw [← hbytes, hread, Except.ok.injEq, AttributeReading.mk.injEq] at hread'
  obtain ⟨rfl, hused⟩ := hread'
  obtain rfl : form = form' := Form.width_inj.mp (by omega)
  exact ⟨rfl, rfl, List.append_cancel_left heq⟩

/-! ### Sections -/

/-- Every attribute fits its fields, with its form. -/
def AllFit (attributes : List (Form × Attribute)) : Prop :=
  ∀ form a, (form, a) ∈ attributes → Fits form a

theorem allFit_nil : AllFit [] := fun _ _ h => absurd h List.not_mem_nil

theorem allFit_cons {form : Form} {a : Attribute} {rest : List (Form × Attribute)} :
    AllFit ((form, a) :: rest) ↔ Fits form a ∧ AllFit rest := by
  constructor
  · intro h
    exact ⟨h form a List.mem_cons_self, fun f b hb => h f b (List.mem_cons_of_mem _ hb)⟩
  · rintro ⟨ha, hrest⟩ f b hb
    rcases List.mem_cons.mp hb with heq | hb
    · cases heq
      exact ha
    · exact hrest f b hb

@[simp] theorem sectionBytes_nil : sectionBytes [] = [] := rfl

theorem sectionBytes_cons (form : Form) (a : Attribute) (rest : List (Form × Attribute)) :
    sectionBytes ((form, a) :: rest) = attributeBytes form a ++ sectionBytes rest := rfl

/-- Attributes that fit their fields are read from their bytes; what follows them is read as it
would be on its own. -/
theorem readAttributes_sectionBytes_append {trailer : Bytes}
    (htrailer : TagLength.windowSize ≤ trailer.length) {attributes : List (Form × Attribute)}
    (h : AllFit attributes) (seen : List Attribute) (rest : Bytes) :
    readAttributes trailer seen (sectionBytes attributes ++ rest) =
      readAttributes trailer ((attributes.map Prod.snd).reverse ++ seen) rest := by
  induction attributes generalizing seen with
  | nil => rfl
  | cons head attributes ih =>
    obtain ⟨form, a⟩ := head
    obtain ⟨ha, hrest⟩ := allFit_cons.mp h
    have hread := readAttribute_of_fits htrailer ha (sectionBytes attributes ++ rest)
    rw [sectionBytes_cons, attributeBytes, List.cons_append, List.cons_append, List.append_assoc,
      readAttributes_cons_of_ok seen hread]
    simp only
    rw [List.drop_left' (by rw [List.length_append, Form.length_bytes]), ih hrest, List.map_cons,
      List.reverse_cons, List.append_assoc, List.singleton_append]

theorem exists_of_readAttributes {trailer : Bytes} (body : Bytes) {attributes : List Attribute}
    (h : readAttributes trailer [] body = .ok attributes) :
    ∃ l, AllFit l ∧ body = sectionBytes l ∧ attributes = l.map Prod.snd := by
  match body with
  | [] =>
    rw [readAttributes_nil, Except.ok.injEq] at h
    exact ⟨[], allFit_nil, rfl, h.symm⟩
  | kind :: remaining =>
    cases hread : readAttribute trailer kind remaining with
    | error fault =>
      rw [readAttributes_cons_of_error _ hread] at h
      cases h
    | ok reading =>
      obtain ⟨form, rest, hfits, hbody, hrest⟩ := fits_of_readAttribute hread
      rw [readAttributes_cons_of_ok _ hread, ← hrest, readAttributes_eq_map] at h
      cases hmore : readAttributes trailer [] rest with
      | error fault =>
        rw [hmore] at h
        cases h
      | ok more =>
        have hshorter : rest.length < (kind :: remaining).length := by
          rw [hrest, List.length_drop, List.length_cons]
          omega
        obtain ⟨l, hl, rfl, rfl⟩ := exists_of_readAttributes rest hmore
        rw [hmore] at h
        refine ⟨(form, reading.value) :: l, allFit_cons.mpr ⟨hfits, hl⟩, hbody, ?_⟩
        rw [List.map_cons]
        exact (Except.ok.inj h).symm
termination_by body.length

/-- The attributes of a section are those that were laid out in it. -/
theorem readAttributes_eq_ok_iff {trailer : Bytes}
    (htrailer : TagLength.windowSize ≤ trailer.length) {body : Bytes}
    {attributes : List Attribute} :
    readAttributes trailer [] body = .ok attributes ↔
      ∃ l, AllFit l ∧ body = sectionBytes l ∧ attributes = l.map Prod.snd := by
  constructor
  · exact exists_of_readAttributes body
  · rintro ⟨l, hl, rfl, rfl⟩
    have h := readAttributes_sectionBytes_append htrailer hl [] []
    rw [List.append_nil, readAttributes_nil, List.append_nil, List.reverse_reverse] at h
    exact h

/-- The bytes of a section show what was laid out in it, the forms included. -/
theorem sectionBytes_inj {l l' : List (Form × Attribute)} (hl : AllFit l) (hl' : AllFit l')
    (h : sectionBytes l = sectionBytes l') : l = l' := by
  induction l generalizing l' with
  | nil =>
    cases l' with
    | nil => rfl
    | cons head' l' => cases h
  | cons head l ih =>
    cases l' with
    | nil => cases h
    | cons head' l' =>
      obtain ⟨form, a⟩ := head
      obtain ⟨form', a'⟩ := head'
      obtain ⟨ha, hrest⟩ := allFit_cons.mp hl
      obtain ⟨ha', hrest'⟩ := allFit_cons.mp hl'
      obtain ⟨rfl, rfl, htail⟩ := attributeBytes_append_inj ha ha' h
      rw [ih hrest hrest' htail]

end TunerWire.Frame

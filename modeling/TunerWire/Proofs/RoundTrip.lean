import TunerWire.Proofs.Encoding

/-!
# Round trips

Decoding undoes encoding: the frame of a packet is decoded to the packet. The other way round, a
frame that is decoded and encoded again comes back in its shortest forms. It loses one byte for
each attribute that spelled a length of up to 127 in two bytes (`overlongCount`), and it comes back
as it was exactly when there was none. So encoding gives the one shortest frame of a packet.
-/

namespace TunerWire

namespace Frame

/-! ### Overlong lengths -/

/-- How many attributes spell a length in two bytes that one byte could spell. -/
def overlongCount (attributes : List (Form × Attribute)) : Nat :=
  attributes.countP fun (form, a) => form = .long ∧ a.payload.length ≤ 127

theorem overlongCount_cons (form : Form) (a : Attribute) (rest : List (Form × Attribute)) :
    overlongCount ((form, a) :: rest) =
      overlongCount rest + if form = .long ∧ a.payload.length ≤ 127 then 1 else 0 := by
  simp only [overlongCount, List.countP_cons, decide_eq_true_eq]

theorem Form.Admits.least {form : Form} {length : Nat} (h : form.Admits length) :
    (Form.least length).Admits length := by
  rw [Form.least]
  split
  · next hshort => exact hshort
  · next hlong =>
    cases form with
    | short => exact absurd h hlong
    | long => exact h

theorem Fits.least {form : Form} {a : Attribute} (h : Fits form a) :
    Fits (.least a.payload.length) a :=
  ⟨h.1, h.2.1, h.2.2.least⟩

/-- A form that is not the shortest one is one byte longer, and spells a length of up to 127. -/
theorem Fits.width_eq {form : Form} {a : Attribute} (h : Fits form a) :
    form.width = (Form.least a.payload.length).width +
      if form = .long ∧ a.payload.length ≤ 127 then 1 else 0 := by
  obtain ⟨-, -, hadmits⟩ := h
  rw [Form.least]
  cases form with
  | short =>
    have hshort : a.payload.length ≤ 127 := hadmits
    simp [hshort]
  | long => by_cases hshort : a.payload.length ≤ 127 <;> simp [hshort, Form.width]

theorem AllFit.least {l : List (Form × Attribute)} (h : AllFit l) :
    AllFit (leastSpelling (l.map Prod.snd)) := by
  induction l with
  | nil => exact allFit_nil
  | cons head l ih =>
    obtain ⟨ha, hrest⟩ := allFit_cons.mp h
    exact allFit_cons.mpr ⟨ha.least, ih hrest⟩

/-- A section is longer than in its shortest forms by one byte for each overlong length. -/
theorem AllFit.length_sectionBytes {l : List (Form × Attribute)} (h : AllFit l) :
    (sectionBytes l).length =
      (sectionBytes (leastSpelling (l.map Prod.snd))).length + overlongCount l := by
  induction l with
  | nil => rfl
  | cons head l ih =>
    obtain ⟨form, a⟩ := head
    obtain ⟨ha, hrest⟩ := allFit_cons.mp h
    have hwidth := ha.width_eq
    rw [sectionBytes_cons, List.length_append, length_attributeBytes, ih hrest,
      overlongCount_cons]
    simp only [List.map_cons, leastSpelling_cons, sectionBytes_cons, List.length_append,
      length_attributeBytes]
    omega

theorem AllFit.eq_leastSpelling {l : List (Form × Attribute)} (h : AllFit l)
    (hcount : overlongCount l = 0) : l = leastSpelling (l.map Prod.snd) := by
  induction l with
  | nil => rfl
  | cons head l ih =>
    obtain ⟨form, a⟩ := head
    obtain ⟨ha, hrest⟩ := allFit_cons.mp h
    rw [overlongCount_cons] at hcount
    have hwidth := ha.width_eq
    have hform : form = .least a.payload.length := Form.width_inj.mp (by omega)
    rw [List.map_cons, leastSpelling_cons, ← ih hrest (by omega), ← hform]

/-- A packet that has a frame has one in the shortest forms. Its length is that of the frame less
the overlong lengths, and the two are the same where there are none. -/
theorem Spells.exists_least {frame : Bytes} {packet : Packet} {forms : List Form}
    (h : Spells frame packet forms) :
    ∃ shortest, Spells shortest packet (leastForms packet.attributes) ∧
      frame.length = shortest.length + overlongCount (forms.zip packet.attributes) ∧
      (overlongCount (forms.zip packet.attributes) = 0 → frame = shortest) := by
  have hfits : AllFit (forms.zip packet.attributes) := h.fits
  have hsnd : (forms.zip packet.attributes).map Prod.snd = packet.attributes :=
    List.map_snd_zip (Nat.le_of_eq h.length_eq.symm)
  have hleast := hfits.least
  have hlength := hfits.length_sectionBytes
  have hsame := hfits.eq_leastSpelling
  rw [hsnd] at hleast hlength hsame
  have hsection := h.section_le
  refine ⟨ofSection packet.type.toNat (sectionBytes (leastSpelling packet.attributes)),
    ⟨length_leastForms _, h.type_mem, hleast, ?_, rfl⟩, ?_, ?_⟩
  · rw [← leastSpelling]
    omega
  · rw [h.frame_eq, length_ofSection, length_ofSection]
    omega
  · intro hcount
    rw [h.frame_eq]
    exact congrArg (fun l => ofSection packet.type.toNat (sectionBytes l)) (hsame hcount)

end Frame

/-! ### Round trips -/

namespace Packet

open TunerWire.Frame

/-- **Decoding undoes encoding.** -/
theorem decode_of_encode {packet : Packet} {frame : Bytes} (h : packet.encode = .ok frame) :
    Packet.decode frame = .ok packet :=
  decode_of_spells (encode_eq_ok_iff.mp h)

/-- Empty payloads, one kind three times, and payloads that look like a header and like a
length. -/
theorem decode_of_encode_lookalikes :
    Packet.encode { type := 258, attributes := [{ kind := 4 },
        { kind := 4, payload := [0, 1, 0, 3] }, { kind := 128, payload := [128, 1] },
        { kind := 4 }] } =
      .ok [1, 2, 0, 14, 4, 0, 4, 4, 0, 1, 0, 3, 128, 2, 128, 1, 4, 0, 150, 102, 97, 209] ∧
    Packet.decode [1, 2, 0, 14, 4, 0, 4, 4, 0, 1, 0, 3, 128, 2, 128, 1, 4, 0, 150, 102, 97, 209] =
      .ok { type := 258, attributes := [{ kind := 4 },
        { kind := 4, payload := [0, 1, 0, 3] }, { kind := 128, payload := [128, 1] },
        { kind := 4 }] } := by
  have h : Packet.encode { type := 258, attributes := [{ kind := 4 },
        { kind := 4, payload := [0, 1, 0, 3] }, { kind := 128, payload := [128, 1] },
        { kind := 4 }] } =
      .ok [1, 2, 0, 14, 4, 0, 4, 4, 0, 1, 0, 3, 128, 2, 128, 1, 4, 0, 150, 102, 97, 209] := by
    decide +kernel
  exact ⟨h, decode_of_encode h⟩

/-- The frame that comes back when a frame is decoded and its packet encoded. -/
def reencode (frame : Bytes) : Except Fault Bytes := do
  let packet ← Packet.decode frame
  packet.encode

theorem reencode_of_decode {frame : Bytes} {packet : Packet}
    (h : Packet.decode frame = .ok packet) : reencode frame = packet.encode := by
  rw [reencode, h]
  rfl

/-- **Encoding again gives the shortest frame.** A frame that can be decoded can be encoded again.
The result stands for the same packet, is shorter by one byte for each overlong length, and is the
frame itself exactly when there is none. Encoding once more changes nothing, and every other frame
of the packet is longer. -/
theorem exists_shortest_of_decode {frame : Bytes} {packet : Packet}
    (h : Packet.decode frame = .ok packet) :
    ∃ shortest forms, packet.encode = .ok shortest ∧ reencode frame = .ok shortest ∧
      Packet.decode shortest = .ok packet ∧ Spells frame packet forms ∧
      frame.length = shortest.length + overlongCount (forms.zip packet.attributes) ∧
      (shortest = frame ↔ overlongCount (forms.zip packet.attributes) = 0) ∧
      reencode shortest = .ok shortest ∧
      ∀ other, Packet.decode other = .ok packet → other ≠ shortest →
        shortest.length < other.length := by
  obtain ⟨forms, hforms⟩ := exists_spells_of_decode h
  obtain ⟨shortest, hshortest, hlength, hsame⟩ := hforms.exists_least
  have hencode := encode_eq_ok_iff.mpr hshortest
  have hdecode := decode_of_spells hshortest
  refine ⟨shortest, forms, hencode, (reencode_of_decode h).trans hencode, hdecode, hforms,
    hlength, ⟨?_, fun hcount => (hsame hcount).symm⟩,
    (reencode_of_decode hdecode).trans hencode, ?_⟩
  · rintro rfl
    omega
  -- Every frame of the packet has the same shortest frame, as encoding has one result.
  · intro other hother hne
    obtain ⟨forms', hforms'⟩ := exists_spells_of_decode hother
    obtain ⟨shortest', hshortest', hlength', hsame'⟩ := hforms'.exists_least
    obtain rfl := Except.ok.inj (hencode.symm.trans (encode_eq_ok_iff.mpr hshortest'))
    have := mt hsame' hne
    omega

/-- A length of one is spelled in two bytes, and comes back in one. -/
theorem exists_shortest_of_decode_overlong :
    Packet.decode [0, 1, 0, 6, 3, 129, 0, 170, 4, 0, 49, 191, 176, 45] =
        .ok { type := 1, attributes := [{ kind := 3, payload := [170] }, { kind := 4 }] } ∧
      reencode [0, 1, 0, 6, 3, 129, 0, 170, 4, 0, 49, 191, 176, 45] =
        .ok [0, 1, 0, 5, 3, 1, 170, 4, 0, 132, 133, 241, 53] ∧
      reencode [0, 1, 0, 5, 3, 1, 170, 4, 0, 132, 133, 241, 53] =
        .ok [0, 1, 0, 5, 3, 1, 170, 4, 0, 132, 133, 241, 53] := by
  have hdecode : Packet.decode [0, 1, 0, 6, 3, 129, 0, 170, 4, 0, 49, 191, 176, 45] =
      .ok { type := 1, attributes := [{ kind := 3, payload := [170] }, { kind := 4 }] } := by
    decide +kernel
  have hencode : Packet.encode
      { type := 1, attributes := [{ kind := 3, payload := [170] }, { kind := 4 }] } =
      .ok [0, 1, 0, 5, 3, 1, 170, 4, 0, 132, 133, 241, 53] := by
    decide +kernel
  obtain ⟨shortest, -, hshortest, hframe, -, -, -, -, hagain, -⟩ :=
    exists_shortest_of_decode hdecode
  obtain rfl := Except.ok.inj (hshortest.symm.trans hencode)
  exact ⟨hdecode, hframe, hagain⟩

end Packet

end TunerWire

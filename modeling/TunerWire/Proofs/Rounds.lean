import TunerWire.Proofs.Refusal

/-!
# The rounds of decoding

Behind the checks of a frame, decoding goes round by round over the section, and each round reads
one attribute at the cursor. `Rounds` are the rounds from one cursor to another, with the lengths
that are read in them. Wherever rounds lead, the cursor is in the section or at its end
(`Rounds.safe`): a length may carry a round past the end, and then the round is refused, as what is
left is less than any payload. In the section a byte is there for the kind and two are there for the
window on the length, so a length is always read.

A round moves the cursor over the attribute that it reads, its kind, its length and its payload, and
over nothing else (`Rounds.consumes`). So there are at most half as many rounds as bytes in the
section, they come to an end (`exists_rounds`), and where this is the end of the section, no byte is
left.
-/

namespace TunerWire

namespace Frame

/-! ### One round -/

theorem exists_byteAt {frame : Bytes} {index : Nat} (h : index < frame.length) :
    ∃ byte, byteAt frame index = .ok byte := by
  rw [byteAt, List.getElem?_eq_getElem h]
  exact ⟨_, rfl⟩

theorem length_slice {frame : Bytes} {start stop : Nat} (h : stop ≤ frame.length) :
    (slice frame start stop).length = stop - start := by
  rw [slice, List.length_take, List.length_drop]
  omega

theorem used_pos {window : Bytes} {tag : TagLength.Reading}
    (h : TagLength.read window = .ok tag) : 1 ≤ tag.used := by
  obtain ⟨-, form, -, hused, -⟩ := read_window_eq_ok_iff.mp h
  rw [hused]
  cases form with
  | short => exact Nat.le_refl 1
  | long => exact Nat.le_succ 1

namespace Cursor

variable {frame : Bytes} {stop : Nat} {cursor next : Cursor}

theorem length_window (hroom : stop + TagLength.windowSize ≤ frame.length)
    (hlt : cursor.index < stop) : (cursor.window frame).length = TagLength.windowSize := by
  rw [window, length_slice (by omega), Nat.add_sub_cancel_left]

theorem exists_read_window (hroom : stop + TagLength.windowSize ≤ frame.length)
    (hlt : cursor.index < stop) :
    ∃ kind tag, byteAt frame cursor.index = .ok kind ∧
      TagLength.read (cursor.window frame) = .ok tag := by
  obtain ⟨kind, hkind⟩ := exists_byteAt (show cursor.index < frame.length by omega)
  obtain ⟨tag, htag⟩ := exists_read (length_window hroom hlt)
  exact ⟨kind, tag, hkind, htag⟩

/-- **What a round consumes**: the kind, the length, and as many bytes of payload as the length
says, all of them within the section. -/
theorem exists_of_step (hroom : stop + TagLength.windowSize ≤ frame.length)
    (hlt : cursor.index < stop) {tag : TagLength.Reading}
    (htag : TagLength.read (cursor.window frame) = .ok tag)
    (hstep : cursor.step frame stop = .ok next) :
    ∃ a, next.attributes = cursor.attributes ++ [a] ∧ a.payload.length = tag.length ∧
      next.index = cursor.index + (1 + tag.used + a.payload.length) ∧ next.index ≤ stop := by
  obtain ⟨kind, hkind⟩ := exists_byteAt (show cursor.index < frame.length by omega)
  rw [step_of_read hkind htag] at hstep
  split at hstep
  · cases hstep
  · next hfit =>
    obtain rfl := Except.ok.inj hstep
    have hpayload : (slice frame (cursor.index + 1 + tag.used)
        (cursor.index + 1 + tag.used + tag.length)).length = tag.length := by
      rw [length_slice (by omega), Nat.add_sub_cancel_left]
    refine ⟨_, rfl, hpayload, ?_, Nat.not_lt.mp hfit⟩
    simp only [hpayload]
    omega

/-- A round moves the cursor by two bytes at least. -/
theorem index_add_two_le_of_step (hroom : stop + TagLength.windowSize ≤ frame.length)
    (hlt : cursor.index < stop) (hstep : cursor.step frame stop = .ok next) :
    cursor.index + 2 ≤ next.index := by
  obtain ⟨-, tag, -, htag⟩ := exists_read_window hroom hlt
  obtain ⟨a, -, -, hindex, -⟩ := exists_of_step hroom hlt htag hstep
  have := used_pos htag
  omega

end Cursor

/-! ### Rounds -/

open Cursor

/-- Rounds from one cursor to another in a section that ends at `stop`, with the lengths that are
read in them. -/
inductive Rounds (frame : Bytes) (stop : Nat) :
    Cursor → List TagLength.Reading → Cursor → Prop where
  /-- No round. -/
  | nil (cursor : Cursor) : Rounds frame stop cursor [] cursor
  /-- A round before the end of the section, and rounds from where it has come to. -/
  | cons {cursor next final : Cursor} {tag : TagLength.Reading} {tags : List TagLength.Reading} :
      cursor.index < stop → TagLength.read (cursor.window frame) = .ok tag →
        cursor.step frame stop = .ok next → Rounds frame stop next tags final →
          Rounds frame stop cursor (tag :: tags) final

/-- The bytes of attributes: their kinds, their lengths, which take as many bytes as was read for
them, and their payloads. -/
def blockBytes : List TagLength.Reading → List Attribute → Nat
  | tag :: tags, a :: rest => 1 + tag.used + a.payload.length + blockBytes tags rest
  | _, _ => 0

/-- The cursor at the beginning of a round, or at the end of all. -/
structure Safe (frame : Bytes) (stop : Nat) (cursor : Cursor) : Prop where
  /-- The cursor is behind the header. -/
  headerSize_le : headerSize ≤ cursor.index
  /-- It is not behind the section. -/
  index_le : cursor.index ≤ stop
  /-- Before the end of the section there is a byte for the kind. -/
  byte : cursor.index < stop → cursor.index < frame.length
  /-- There are two bytes in the window on the length. -/
  window : cursor.index < stop → (cursor.window frame).length = TagLength.windowSize
  /-- So a length is read. -/
  reads : cursor.index < stop → ∃ tag, TagLength.read (cursor.window frame) = .ok tag
  /-- A round that is completed moves the cursor by two bytes at least. -/
  advances : ∀ next, cursor.index < stop → cursor.step frame stop = .ok next →
    cursor.index + 2 ≤ next.index

section Run

variable {frame : Bytes} {stop : Nat} {cursor final : Cursor} {tags : List TagLength.Reading}

theorem safe_of_index_le (hroom : stop + TagLength.windowSize ≤ frame.length)
    (hheader : headerSize ≤ cursor.index) (hle : cursor.index ≤ stop) :
    Safe frame stop cursor where
  headerSize_le := hheader
  index_le := hle
  byte _ := by omega
  window := length_window hroom
  reads hlt := exists_read (length_window hroom hlt)
  advances _ := index_add_two_le_of_step hroom

/-- **What rounds consume**: they append one attribute for each length, and move the cursor by the
bytes of these attributes, up to the end of the section at most. -/
theorem Rounds.consumes (hroom : stop + TagLength.windowSize ≤ frame.length)
    (h : Rounds frame stop cursor tags final) (hle : cursor.index ≤ stop) :
    ∃ more, final.attributes = cursor.attributes ++ more ∧ tags.length = more.length ∧
      final.index = cursor.index + blockBytes tags more ∧ final.index ≤ stop := by
  induction h with
  | nil => exact ⟨[], (List.append_nil _).symm, rfl, rfl, hle⟩
  | cons hlt htag hstep _ ih =>
    obtain ⟨a, hattributes, -, hindex, hstop⟩ := exists_of_step hroom hlt htag hstep
    obtain ⟨more, hmore, hlength, hfinal, hfinalstop⟩ := ih hstop
    refine ⟨a :: more, ?_, ?_, ?_, hfinalstop⟩
    · rw [hmore, hattributes, List.append_assoc, List.singleton_append]
    · rw [List.length_cons, List.length_cons, hlength]
    · rw [hfinal, hindex, blockBytes, Nat.add_assoc]

/-- Every round takes two bytes of the section at least. -/
theorem Rounds.two_mul_le (hroom : stop + TagLength.windowSize ≤ frame.length)
    (h : Rounds frame stop cursor tags final) : cursor.index + 2 * tags.length ≤ final.index := by
  induction h with
  | nil => exact Nat.le_refl _
  | cons hlt _ hstep _ ih =>
    have := index_add_two_le_of_step hroom hlt hstep
    rw [List.length_cons]
    omega

/-- **Wherever rounds lead, the cursor is safe.** -/
theorem Rounds.safe (hroom : stop + TagLength.windowSize ≤ frame.length)
    (h : Rounds frame stop cursor tags final) (hheader : headerSize ≤ cursor.index)
    (hle : cursor.index ≤ stop) : Safe frame stop final := by
  obtain ⟨more, -, -, hindex, hstop⟩ := h.consumes hroom hle
  exact safe_of_index_le hroom (by omega) hstop

/-- A run comes to what it comes to from wherever rounds lead. -/
theorem Rounds.run_eq (h : Rounds frame stop cursor tags final) :
    cursor.run frame stop = final.run frame stop := by
  induction h with
  | nil => rfl
  | cons hlt _ hstep _ ih => rw [run_of_ok hlt hstep, ih]

/-- **Rounds come to an end**: at the end of the section, or at a cursor where a round is
refused. -/
theorem exists_rounds (hroom : stop + TagLength.windowSize ≤ frame.length) (cursor : Cursor)
    (hle : cursor.index ≤ stop) :
    ∃ tags final, Rounds frame stop cursor tags final ∧
      (final.index = stop ∨ final.index < stop ∧ ∃ trap, final.step frame stop = .error trap) := by
  by_cases hlt : cursor.index < stop
  · obtain ⟨-, tag, -, htag⟩ := exists_read_window hroom hlt
    cases hstep : cursor.step frame stop with
    | error trap => exact ⟨[], cursor, .nil cursor, .inr ⟨hlt, trap, hstep⟩⟩
    | ok next =>
      obtain ⟨-, -, -, -, hnext⟩ := exists_of_step hroom hlt htag hstep
      obtain ⟨tags, final, hrounds, hend⟩ := exists_rounds hroom next hnext
      exact ⟨tag :: tags, final, .cons hlt htag hstep hrounds, hend⟩
  · exact ⟨[], cursor, .nil cursor, .inl (by omega)⟩
termination_by stop - cursor.index
decreasing_by
  have := index_lt_of_step hstep
  omega

theorem exists_rounds_of_run_eq_ok (hroom : stop + TagLength.windowSize ≤ frame.length)
    (hle : cursor.index ≤ stop) {attributes : List Attribute}
    (h : cursor.run frame stop = .ok attributes) :
    ∃ tags, Rounds frame stop cursor tags { index := stop, attributes } := by
  obtain ⟨tags, final, hrounds, hindex | ⟨hlt, trap, hstep⟩⟩ := exists_rounds hroom cursor hle
  · rw [hrounds.run_eq, run_of_le (Nat.le_of_eq hindex.symm)] at h
    obtain rfl := Except.ok.inj h
    subst hindex
    exact ⟨tags, hrounds⟩
  · rw [hrounds.run_eq, run_of_error hlt hstep] at h
    cases h

end Run

end Frame

namespace Packet

open TunerWire.Frame TunerWire.Frame.Cursor

section Checked

variable {frame : Bytes} (hsize : minSize ≤ frame.length)
  (hsum : carriedChecksum frame = computedChecksum frame)
  (hsection : declaredSection frame = frame.length - minSize)

include hsize hsum hsection

/-- Behind the checks of a frame, decoding comes to what the run over the section comes to. -/
theorem mapError_decode_of_declared_eq :
    (Packet.decode frame).mapError .fault =
      (Cursor.run frame (frame.length - checksumSize)
        { index := headerSize, attributes := [] }).map fun attributes =>
          { type := Octets.ofBigEndian (frame.take 2), attributes } := by
  rw [decode_of_declared_eq hsize hsum hsection, run_section hsize]
  cases readAttributes (trailer frame) [] (sectionOf frame) <;> rfl

theorem decode_eq_ok_iff_run {packet : Packet} :
    Packet.decode frame = .ok packet ↔
      ∃ attributes,
        Cursor.run frame (frame.length - checksumSize) { index := headerSize, attributes := [] } =
          .ok attributes ∧
        { type := Octets.ofBigEndian (frame.take 2), attributes } = packet := by
  rw [← mapError_eq_ok_iff (f := Trap.fault), mapError_decode_of_declared_eq hsize hsum hsection]
  exact map_eq_ok_iff

theorem decode_eq_error_iff_run {fault : Fault} :
    Packet.decode frame = .error fault ↔
      Cursor.run frame (frame.length - checksumSize) { index := headerSize, attributes := [] } =
        .error (.fault fault) := by
  calc Packet.decode frame = .error fault
    _ ↔ (Packet.decode frame).mapError .fault = .error (Trap.fault fault) := by
        rw [mapError_eq_error_iff]
        constructor
        · intro h
          exact ⟨fault, h, rfl⟩
        · rintro ⟨fault', h, hfault⟩
          rwa [← Trap.fault.inj hfault]
    _ ↔ _ := by
        rw [mapError_decode_of_declared_eq hsize hsum hsection]
        exact map_eq_error_iff

end Checked

/-- **The rounds of decoding are safe, come to an end, and lose no byte.** In a frame that has
passed the checks, every round begins within the section, with a byte for the kind and two bytes for
the length, and moves the cursor by two bytes at least; there are at most half as many rounds as
bytes in the section. They end at the end of the section, with the attributes of the packet, or
where a round is refused. In the first case the attributes take all bytes of the section, and no
others. -/
theorem decode_rounds {frame : Bytes} (hsize : 8 ≤ frame.length)
    (hsum : carriedChecksum frame = computedChecksum frame)
    (hsection : declaredSection frame = frame.length - 8) :
    (∀ tags cursor,
      Rounds frame (frame.length - 4) { index := 4, attributes := [] } tags cursor →
        Safe frame (frame.length - 4) cursor ∧ 2 * tags.length ≤ declaredSection frame) ∧
    (∃ tags cursor,
      Rounds frame (frame.length - 4) { index := 4, attributes := [] } tags cursor ∧
        (cursor.index = frame.length - 4 ∧
            (∃ packet, Packet.decode frame = .ok packet ∧
              packet.attributes = cursor.attributes) ∨
          cursor.index < frame.length - 4 ∧
            ∃ fault, cursor.step frame (frame.length - 4) = .error (.fault fault) ∧
              Packet.decode frame = .error fault)) ∧
    ∀ packet, Packet.decode frame = .ok packet →
      ∃ tags, Rounds frame (frame.length - 4) { index := 4, attributes := [] } tags
          { index := frame.length - 4, attributes := packet.attributes } ∧
        tags.length = packet.attributes.length ∧
        2 * packet.attributes.length ≤ declaredSection frame ∧
        blockBytes tags packet.attributes = declaredSection frame := by
  have hroom : frame.length - 4 + TagLength.windowSize ≤ frame.length := by
    rw [TagLength.windowSize]
    omega
  have hfirst : 4 ≤ frame.length - 4 := by omega
  refine ⟨fun tags cursor hrounds => ?_, ?_, fun packet hdecode => ?_⟩
  · have hsafe := hrounds.safe hroom (Nat.le_refl 4) hfirst
    have htwo := hrounds.two_mul_le hroom
    have hstop := hsafe.index_le
    simp only at htwo
    exact ⟨hsafe, by omega⟩
  · obtain ⟨tags, cursor, hrounds, hend⟩ :=
      exists_rounds hroom { index := 4, attributes := [] } hfirst
    refine ⟨tags, cursor, hrounds, ?_⟩
    obtain hindex | ⟨hlt, trap, hstep⟩ := hend
    · have hrun := hrounds.run_eq.trans (run_of_le (Nat.le_of_eq hindex.symm))
      exact .inl ⟨hindex, _,
        (decode_eq_ok_iff_run hsize hsum hsection).mpr ⟨cursor.attributes, hrun, rfl⟩, rfl⟩
    · have hrun := hrounds.run_eq.trans (run_of_error hlt hstep)
      -- A run over the section fails with a fault, as reading its attributes does.
      obtain ⟨fault, -, rfl⟩ := mapError_eq_error_iff.mp ((run_section hsize).symm.trans hrun)
      exact .inr ⟨hlt, fault, hstep, (decode_eq_error_iff_run hsize hsum hsection).mpr hrun⟩
  · obtain ⟨attributes, hrun, rfl⟩ := (decode_eq_ok_iff_run hsize hsum hsection).mp hdecode
    obtain ⟨tags, hrounds⟩ := exists_rounds_of_run_eq_ok hroom hfirst hrun
    obtain ⟨more, hmore, hlength, hconsumed, -⟩ := hrounds.consumes hroom hfirst
    have htwo := hrounds.two_mul_le hroom
    simp only [List.nil_append, headerSize] at hmore hconsumed htwo
    subst hmore
    exact ⟨tags, hrounds, hlength, by simp only; omega, by simp only; omega⟩

/-- The length of the first payload takes two bytes, those of the others take one. -/
theorem decode_rounds_mixed :
    declaredSection [0, 1, 0, 10, 3, 129, 0, 170, 4, 0, 4, 2, 128, 1, 27, 114, 179, 204] = 10 ∧
      ∃ tags,
        Rounds [0, 1, 0, 10, 3, 129, 0, 170, 4, 0, 4, 2, 128, 1, 27, 114, 179, 204] 14
          { index := 4, attributes := [] } tags
          { index := 14, attributes := [{ kind := 3, payload := [170] }, { kind := 4 },
            { kind := 4, payload := [128, 1] }] } ∧
        tags.length = 3 ∧
        blockBytes tags [{ kind := 3, payload := [170] }, { kind := 4 },
          { kind := 4, payload := [128, 1] }] = 10 := by
  have hsection : declaredSection
      [0, 1, 0, 10, 3, 129, 0, 170, 4, 0, 4, 2, 128, 1, 27, 114, 179, 204] = 10 := by decide
  obtain ⟨-, -, hpacket⟩ :=
    @decode_rounds [0, 1, 0, 10, 3, 129, 0, 170, 4, 0, 4, 2, 128, 1, 27, 114, 179, 204]
      (by decide) (by decide +kernel) hsection
  obtain ⟨tags, hrounds, hlength, -, hbytes⟩ :=
    hpacket { type := 1, attributes := [{ kind := 3, payload := [170] }, { kind := 4 },
      { kind := 4, payload := [128, 1] }] } (by decide +kernel)
  exact ⟨hsection, tags, hrounds, hlength, hbytes.trans hsection⟩

end Packet

end TunerWire

import TunerWire.Proofs.Encoding

/-!
# Writing in place

Encoding writes one field after the other into a buffer that was laid aside for all of them. Here
the run is taken apart into its writes (`packetFields`, `putAttributes_eq_putFields`), and a write
is shown to touch nothing but its own bytes (`WritesInPlace`), although the window of a length may
lie over bytes of the next field. A run keeps this up (`runsInPlace_put`): what a field has written
is still there when the frame is closed, and the cursor stops where the checksum belongs.
-/

namespace TunerWire

open Octets

namespace Draft

open TunerWire.Frame

/-! ### Fields -/

/-- What is written at once. -/
inductive Field where
  /-- Bytes. -/
  | bytes (content : Bytes)
  /-- A tag length, through a window. -/
  | length (value : Nat)
  deriving DecidableEq, Repr

/-- Write a field at the cursor. -/
def putField (draft : Draft) : Field → Except Fault Draft
  | .bytes content => .ok (draft.put content)
  | .length value => draft.putLength value

/-- Write fields at the cursor. -/
def putFields (draft : Draft) : List Field → Except Fault Draft
  | [] => .ok draft
  | field :: rest => do
    let draft ← draft.putField field
    draft.putFields rest

/-- The fields of an attribute. -/
def attributeFields (a : Attribute) : List Field :=
  [.bytes [UInt8.ofNat a.kind.toNat], .length a.payload.length, .bytes a.payload]

/-- The fields of a packet, in the order they are written. -/
def packetFields (packet : Packet) (sectionLength : Nat) : List Field :=
  .bytes (bigEndian 2 packet.type.toNat) :: .bytes (bigEndian 2 sectionLength) ::
    packet.attributes.flatMap attributeFields

/-- The bytes a field leaves in the frame. -/
def Field.content : Field → Bytes
  | .bytes content => content
  | .length value => (Form.least value).bytes value

/-- A field that can be written: a length has to be one that some form can spell. -/
def Field.Admitted : Field → Prop
  | .bytes _ => True
  | .length value => (Form.least value).Admits value

theorem putAttributes_eq_putFields (draft : Draft) (attributes : List Attribute) :
    draft.putAttributes attributes = draft.putFields (attributes.flatMap attributeFields) := by
  induction attributes generalizing draft with
  | nil => rfl
  | cons a rest ih =>
    have hfirst : draft.putAttributes (a :: rest) =
        ((draft.put [UInt8.ofNat a.kind.toNat]).putLength a.payload.length >>= fun draft =>
          (draft.put a.payload).putAttributes rest) := by
      rw [putAttributes, putAttribute, bind_assoc]
      rfl
    simp only [hfirst, ih]
    rfl

/-! ### One write -/

/-- What the write of a field does to a draft: it fills the bytes at the cursor and no others,
within the buffer and before the place of the checksum. -/
structure WritesInPlace (field : Field) (draft draft' : Draft) : Prop where
  /-- The buffer keeps its size. -/
  size_eq : draft'.buffer.size = draft.buffer.size
  /-- The cursor moves over the bytes of the field. -/
  cursor_eq : draft'.cursor = draft.cursor + field.content.length
  /-- There is room for the checksum behind them. -/
  room : draft'.cursor + checksumSize ≤ draft.buffer.size
  /-- The window on a length is two bytes of the buffer. -/
  window : ∀ value, field = .length value →
    (windowAt draft.buffer draft.cursor).size = TagLength.windowSize
  /-- The bytes before the cursor stay, those of the field are filled in, and those behind stay. -/
  buffer_eq : draft'.buffer.toList =
    draft.buffer.toList.take draft.cursor ++ field.content ++ draft.buffer.toList.drop draft'.cursor

variable {draft : Draft} {field : Field}

@[simp] theorem cursor_blank (size : Nat) : (blank size).cursor = 0 := rfl

@[simp] theorem size_blank (size : Nat) : (blank size).buffer.size = size :=
  Array.size_replicate

theorem putField_eq_put (hroom : draft.cursor + field.content.length + checksumSize ≤
      draft.buffer.size) (h : field.Admitted) :
    draft.putField field = .ok (draft.put field.content) := by
  cases field with
  | bytes content => rfl
  | length value =>
    refine putLength_eq_put ?_ h
    rw [checksumSize] at hroom
    rw [TagLength.windowSize]
    omega

theorem writesInPlace_put (hroom : draft.cursor + field.content.length + checksumSize ≤
      draft.buffer.size) : WritesInPlace field draft (draft.put field.content) where
  size_eq := size_put draft field.content
  cursor_eq := cursor_put draft field.content
  room := hroom
  window := by
    intro value _
    rw [checksumSize] at hroom
    simp only [Window.size, windowAt, TagLength.windowSize]
    omega
  buffer_eq := toList_store (Nat.le_trans (Nat.le_add_right ..) hroom)

/-! ### A run of writes -/

/-- The bytes of fields. -/
def contents (fields : List Field) : Bytes := fields.flatMap Field.content

theorem contents_append (fields fields' : List Field) :
    contents (fields ++ fields') = contents fields ++ contents fields' :=
  List.flatMap_append

theorem contents_cons (field : Field) (fields : List Field) :
    contents (field :: fields) = field.content ++ contents fields := rfl

/-- Fields are written as their bytes, if a checksum is to follow. -/
theorem putFields_eq_put {fields : List Field}
    (hroom : draft.cursor + (contents fields).length + checksumSize ≤ draft.buffer.size)
    (h : ∀ field ∈ fields, field.Admitted) :
    draft.putFields fields = .ok (draft.put (contents fields)) := by
  induction fields generalizing draft with
  | nil => rfl
  | cons field rest ih =>
    rw [contents_cons, List.length_append] at hroom
    have hfirst : draft.putField field = .ok (draft.put field.content) :=
      putField_eq_put (by omega) (h field List.mem_cons_self)
    refine bind_eq_ok_iff.mpr ⟨_, hfirst, ?_⟩
    rw [contents_cons, put_append]
    refine ih ?_ fun field hfield => h field (List.mem_cons_of_mem _ hfield)
    rw [cursor_put, size_put]
    omega

/-- What stands before the cursor of a draft stays there when more is written. -/
theorem take_cursor_put {bytes : Bytes} (hroom : draft.cursor + bytes.length ≤ draft.buffer.size) :
    (draft.put bytes).buffer.toList.take draft.cursor = draft.buffer.toList.take draft.cursor := by
  have hlength : (draft.buffer.toList.take draft.cursor).length = draft.cursor := by
    rw [List.length_take, Array.length_toList]
    omega
  have hstore : (draft.put bytes).buffer.toList = _ := toList_store hroom
  rw [hstore, List.append_assoc, List.take_left' hlength]

theorem take_cursor_putChecksum (hroom : draft.cursor + checksumSize ≤ draft.buffer.size) :
    draft.putChecksum.buffer.toList.take draft.cursor = draft.buffer.toList.take draft.cursor :=
  take_cursor_put (by rwa [length_littleEndian])

/-- A run of writes: each of them is in place, and what it leaves before the cursor is still there
when the run is over. -/
def RunsInPlace (first : Draft) (fields : List Field) (final : Draft) : Prop :=
  ∀ before field after, fields = before ++ field :: after →
    ∃ start stop, first.putFields before = .ok start ∧ start.putField field = .ok stop ∧
      stop.putFields after = .ok final ∧ WritesInPlace field start stop ∧
      final.buffer.toList.take stop.cursor = stop.buffer.toList.take stop.cursor

/-- Fields are written in place, if a checksum is to follow. -/
theorem runsInPlace_put {fields : List Field}
    (hroom : draft.cursor + (contents fields).length + checksumSize ≤ draft.buffer.size)
    (h : ∀ field ∈ fields, field.Admitted) :
    RunsInPlace draft fields (draft.put (contents fields)) := by
  rintro before field after rfl
  rw [contents_append, contents_cons, List.length_append, List.length_append] at hroom
  have hstart : (draft.put (contents before)).cursor + field.content.length + checksumSize ≤
      (draft.put (contents before)).buffer.size := by
    rw [cursor_put, size_put]
    omega
  have hstop : ((draft.put (contents before)).put field.content).cursor + (contents after).length +
      checksumSize ≤ ((draft.put (contents before)).put field.content).buffer.size := by
    rw [cursor_put, cursor_put, size_put, size_put]
    omega
  rw [contents_append, contents_cons, put_append, put_append]
  refine ⟨_, _, putFields_eq_put (by omega) fun field' hfield' => ?_,
    putField_eq_put hstart ?_, putFields_eq_put hstop fun field' hfield' => ?_,
    writesInPlace_put hstart, take_cursor_put (Nat.le_trans (Nat.le_add_right ..) hstop)⟩
  · exact h field' (List.mem_append_left _ hfield')
  · exact h field (List.mem_append_right _ List.mem_cons_self)
  · exact h field' (List.mem_append_right _ (List.mem_cons_of_mem _ hfield'))

end Draft

/-! ### The run of a packet -/

namespace Frame

theorem leastSpelling_eq_map (attributes : List Attribute) :
    leastSpelling attributes = attributes.map fun a => (.least a.payload.length, a) := by
  induction attributes with
  | nil => rfl
  | cons a rest ih => rw [leastSpelling_cons, ih, List.map_cons]

/-- The section of a packet is the concatenation of its attributes in their shortest forms. -/
theorem sectionBytes_leastSpelling (attributes : List Attribute) :
    sectionBytes (leastSpelling attributes) =
      attributes.flatMap fun a => attributeBytes (.least a.payload.length) a := by
  rw [leastSpelling_eq_map, sectionBytes, List.flatMap_map]

theorem AllFit.of_mem {attributes : List Attribute} (h : AllFit (leastSpelling attributes))
    {a : Attribute} (ha : a ∈ attributes) : Fits (.least a.payload.length) a := by
  apply h
  rw [leastSpelling_eq_map]
  exact List.mem_map_of_mem ha

end Frame

namespace Draft

open TunerWire.Frame

theorem contents_attributeFields (attributes : List Attribute) :
    contents (attributes.flatMap attributeFields) = sectionBytes (leastSpelling attributes) := by
  rw [sectionBytes_leastSpelling, contents, List.flatMap_assoc]
  congr 1
  funext a
  simp [attributeFields, Field.content, attributeBytes]

theorem contents_packetFields (packet : Packet) (sectionLength : Nat) :
    contents (packetFields packet sectionLength) =
      header packet.type.toNat sectionLength ++ sectionBytes (leastSpelling packet.attributes) := by
  rw [packetFields, contents_cons, contents_cons, contents_attributeFields, header,
    List.append_assoc]
  rfl

/-- Where the attributes fit their fields, every field of the packet can be written. -/
theorem admitted_of_mem_packetFields {packet : Packet} {sectionLength : Nat}
    (h : AllFit (leastSpelling packet.attributes)) {field : Field}
    (hfield : field ∈ packetFields packet sectionLength) : field.Admitted := by
  rcases field with content | value
  · exact trivial
  · simp only [packetFields, List.mem_cons, reduceCtorEq, false_or, List.mem_flatMap,
      attributeFields, Field.length.injEq, List.not_mem_nil, or_false] at hfield
    obtain ⟨a, ha, rfl⟩ := hfield
    exact (h.of_mem ha).2.2

/-- The buffer that is laid aside has room for the fields and the checksum, and for no more. -/
theorem length_contents_packetFields {packet : Packet} {body : Bytes}
    (hbody : sectionBytes (leastSpelling packet.attributes) = body) :
    (blank (4 + body.length + 4)).cursor + (contents (packetFields packet body.length)).length +
      checksumSize = (blank (4 + body.length + 4)).buffer.size := by
  rw [contents_packetFields, hbody, List.length_append, length_header, cursor_blank, size_blank,
    headerSize, checksumSize, Nat.zero_add]

end Draft

namespace Packet

open TunerWire.Frame TunerWire.Draft

/-- **Encoding in place gives the plain concatenation of the fields.** The frame of a packet is the
type, the section length, the attributes one after the other with their lengths in the shortest
form, and the checksum, and every number fits its field. The section length is the size that was
added up beforehand. Each write of the run that makes the frame is in place, and nothing it has
written is changed later on, not by the checksum either. The cursor stops four bytes before the end
of the buffer. -/
theorem encode_in_place {packet : Packet} {frame : Bytes} (h : packet.encode = .ok frame) :
    ∃ (body : Bytes) (final : Draft),
      body = (packet.attributes.flatMap fun a => attributeBytes (.least a.payload.length) a) ∧
      frame = bigEndian 2 packet.type.toNat ++ bigEndian 2 body.length ++ body ++
        littleEndian 4 (Checksum.crc32
          (bigEndian 2 packet.type.toNat ++ bigEndian 2 body.length ++ body)).toNat ∧
      (0 ≤ packet.type ∧ packet.type ≤ 65535) ∧
      (∀ a ∈ packet.attributes, Fits (.least a.payload.length) a) ∧
      sectionSize packet.attributes = .ok body.length ∧
      ofBigEndian (bigEndian 2 body.length) = body.length ∧
      (((blank (4 + body.length + 4)).put (bigEndian 2 packet.type.toNat)).put
        (bigEndian 2 body.length)).putAttributes packet.attributes = .ok final ∧
      RunsInPlace (blank (4 + body.length + 4)) (packetFields packet body.length) final ∧
      final.putChecksum.buffer.toList = frame ∧
      frame.take final.cursor = final.buffer.toList.take final.cursor ∧
      final.cursor + 4 = final.buffer.size := by
  obtain ⟨-, htype, hfits, hsize, hframe⟩ := encode_eq_ok_iff.mp h
  rw [← leastSpelling] at hfits hsize hframe
  have hsection := sectionSize_eq_ok_iff.mpr ⟨hfits, rfl⟩
  generalize hbody : sectionBytes (leastSpelling packet.attributes) = body at hsize hframe hsection
  have hroom := length_contents_packetFields hbody
  have hadmitted : ∀ field ∈ packetFields packet body.length, field.Admitted :=
    fun _ => admitted_of_mem_packetFields hfits
  have hrun := runsInPlace_put (Nat.le_of_eq hroom) hadmitted
  have hfinal := putFields_eq_put (Nat.le_of_eq hroom) hadmitted
  have hclosed : ((blank (4 + body.length + 4)).put
      (contents (packetFields packet body.length))).putChecksum.buffer.toList = frame := by
    rw [contents_packetFields, hbody, hframe, ofSection, toList_putChecksum]
    rw [List.length_append, length_header]
    rfl
  refine ⟨body, _, ?_, ?_, htype, fun a ha => AllFit.of_mem hfits ha, hsection,
    ofBigEndian_bigEndian_two hsize, ?_, hrun, hclosed, ?_, ?_⟩
  · rw [← hbody, sectionBytes_leastSpelling]
  · rw [hframe]
    rfl
  · rw [putAttributes_eq_putFields]
    exact hfinal
  · rw [← hclosed]
    apply take_cursor_putChecksum
    rw [cursor_put, size_put]
    exact Nat.le_of_eq hroom
  · rw [cursor_put, size_put]
    exact hroom

/-- The length of the last payload takes one byte, and its window lies over the first byte of the
checksum. -/
theorem encode_in_place_over_checksum :
    Packet.encode { type := 1, attributes := [{ kind := 3, payload := [170] }, { kind := 4 }] } =
        .ok [0, 1, 0, 5, 3, 1, 170, 4, 0, 132, 133, 241, 53] ∧
      ∃ start stop, (blank 13).putFields [.bytes [0, 1], .bytes [0, 5], .bytes [3], .length 1,
          .bytes [170], .bytes [4]] = .ok start ∧
        start.putField (.length 0) = .ok stop ∧ WritesInPlace (.length 0) start stop ∧
        stop.buffer.toList.take stop.cursor =
          [0, 1, 0, 5, 3, 1, 170, 4, 0, 132, 133, 241, 53].take stop.cursor := by
  have h : Packet.encode
      { type := 1, attributes := [{ kind := 3, payload := [170] }, { kind := 4 }] } =
      .ok [0, 1, 0, 5, 3, 1, 170, 4, 0, 132, 133, 241, 53] := by
    decide +kernel
  obtain ⟨body, final, rfl, -, -, -, -, -, -, hrun, -, hframe, -⟩ := encode_in_place h
  obtain ⟨start, stop, hstart, hstop, hafter, hwrites, hkept⟩ :=
    hrun [.bytes [0, 1], .bytes [0, 5], .bytes [3], .length 1, .bytes [170], .bytes [4]]
      (.length 0) [.bytes []] (by decide +kernel)
  obtain rfl : stop.put [] = final := Except.ok.inj hafter
  exact ⟨h, start, stop, hstart, hstop, hwrites, hkept.symm.trans hframe.symm⟩

end Packet

end TunerWire

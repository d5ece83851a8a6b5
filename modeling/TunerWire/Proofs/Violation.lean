import TunerWire.Proofs.Encoding

/-!
# Packets without a frame

Every outcome of encoding. A packet can violate several bounds at once, and it is rejected for the
violation that comes first in this order: the type, then attribute by attribute the kind before the
length of the payload, and the size of the whole section last (`Violation`). A packet that violates
no bound has a frame. The sizes are plain numbers, so the size of a section that is too long is
reported as it is, and an attribute that does not fit is reported however long the section gets.
-/

namespace TunerWire

namespace Frame

/-! ### Attributes -/

/-- An attribute that fits into a frame: its kind takes one byte, and its length at most two. -/
def Expressible (a : Attribute) : Prop :=
  (0 ≤ a.kind ∧ a.kind ≤ 255) ∧ a.payload.length ≤ 32767

/-- The bytes of an attribute: the kind, the length in its shortest form and the payload. -/
def shortestSize (a : Attribute) : Nat :=
  1 + (if a.payload.length ≤ 127 then 1 else 2) + a.payload.length

/-- The bytes of all attributes. -/
def shortestTotal : List Attribute → Nat
  | [] => 0
  | a :: rest => shortestSize a + shortestTotal rest

theorem fits_least_iff {a : Attribute} : Fits (.least a.payload.length) a ↔ Expressible a := by
  rw [Fits, Expressible, admits_least_iff, and_assoc]

theorem length_attributeBytes_least (a : Attribute) :
    (attributeBytes (.least a.payload.length) a).length = shortestSize a := by
  rw [length_attributeBytes, shortestSize, Form.least]
  split <;> rfl

theorem attributeSize_eq_ok {a : Attribute} (h : Expressible a) :
    attributeSize a = .ok (shortestSize a) :=
  attributeSize_eq_ok_iff.mpr ⟨fits_least_iff.mpr h, (length_attributeBytes_least a).symm⟩

/-- What an attribute is rejected for: its kind, or else the length of its payload. -/
theorem attributeSize_eq_error_iff {a : Attribute} {fault : Fault} :
    attributeSize a = .error fault ↔
      ¬ (0 ≤ a.kind ∧ a.kind ≤ 255) ∧ fault = .kindOutOfRange a.kind ∨
      (0 ≤ a.kind ∧ a.kind ≤ 255) ∧ 32767 < a.payload.length ∧
        fault = .payloadTooLong a.payload.length := by
  rw [attributeSize, bind_eq_error_iff, checkRange_eq_error_iff]
  constructor
  · rintro (hkind | ⟨_, hkind, h⟩)
    · exact .inl hkind
    · rcases bind_eq_error_iff.mp h with hlength | ⟨width, -, h⟩
      · obtain ⟨cause, hcause, rfl⟩ := mapError_eq_error_iff.mp hlength
        rcases TagLength.size_eq_error_iff.mp hcause with ⟨hneg, -⟩ | ⟨hlarge, -⟩
        · omega
        · exact .inr ⟨checkRange_eq_ok_iff.mp hkind, Int.ofNat_lt.mp hlarge, rfl⟩
      · cases h
  · rintro (hkind | ⟨hkind, hlarge, rfl⟩)
    · exact .inl hkind
    · refine .inr ⟨(), checkRange_eq_ok_iff.mpr hkind, bind_eq_error_iff.mpr (.inl ?_)⟩
      have hcause := TagLength.size_eq_error_iff.mpr (.inr ⟨Int.ofNat_lt.mpr hlarge, rfl⟩)
      exact mapError_eq_error_iff.mpr ⟨_, hcause, rfl⟩

/-! ### Sections -/

theorem allFit_leastSpelling_iff {attributes : List Attribute} :
    AllFit (leastSpelling attributes) ↔ ∀ a ∈ attributes, Expressible a := by
  induction attributes with
  | nil => exact ⟨fun _ => by simp, fun _ => allFit_nil⟩
  | cons a rest ih => rw [leastSpelling_cons, allFit_cons, fits_least_iff, ih, List.forall_mem_cons]

theorem length_sectionBytes_least (attributes : List Attribute) :
    (sectionBytes (leastSpelling attributes)).length = shortestTotal attributes := by
  induction attributes with
  | nil => rfl
  | cons a rest ih =>
    rw [leastSpelling_cons, sectionBytes_cons, List.length_append, length_attributeBytes_least, ih,
      shortestTotal]

theorem addSizes_eq_error_iff {total : Nat} {attributes : List Attribute} {fault : Fault} :
    addSizes total attributes = .error fault ↔
      ∃ before a after, attributes = before ++ a :: after ∧ (∀ b ∈ before, Expressible b) ∧
        attributeSize a = .error fault := by
  induction attributes generalizing total with
  | nil =>
    constructor
    · intro h
      cases h
    · rintro ⟨before, a, after, hsplit, -⟩
      exact absurd hsplit.symm (by simp)
  | cons first rest ih =>
    rw [addSizes, bind_eq_error_iff]
    constructor
    · rintro (hfirst | ⟨size, hfirst, hrest⟩)
      · exact ⟨[], first, rest, rfl, by simp, hfirst⟩
      · obtain ⟨before, a, after, rfl, hbefore, ha⟩ := ih.mp hrest
        have hfits := fits_least_iff.mp (attributeSize_eq_ok_iff.mp hfirst).1
        exact ⟨first :: before, a, after, rfl, List.forall_mem_cons.mpr ⟨hfits, hbefore⟩, ha⟩
    · rintro ⟨before, a, after, hsplit, hbefore, ha⟩
      cases before with
      | nil =>
        obtain ⟨rfl, rfl⟩ := List.cons.inj hsplit
        exact .inl ha
      | cons b before =>
        obtain ⟨rfl, rfl⟩ := List.cons.inj hsplit
        obtain ⟨hfirst, hbefore⟩ := List.forall_mem_cons.mp hbefore
        exact .inr ⟨_, attributeSize_eq_ok hfirst, ih.mpr ⟨before, a, after, rfl, hbefore, ha⟩⟩

theorem sectionSize_eq_error_iff {attributes : List Attribute} {fault : Fault} :
    sectionSize attributes = .error fault ↔
      ∃ before a after, attributes = before ++ a :: after ∧ (∀ b ∈ before, Expressible b) ∧
        attributeSize a = .error fault :=
  addSizes_eq_error_iff

end Frame

open TunerWire.Frame

/-! ### Packets -/

/-- What a packet is rejected for, with the class of the fault: the first bound it violates. -/
inductive Violation (packet : Packet) : Fault → ErrorClass → Prop where
  /-- The type does not take two bytes. -/
  | type (htype : ¬ (0 ≤ packet.type ∧ packet.type ≤ 65535)) :
      Violation packet (.typeOutOfRange packet.type) .value
  /-- Behind attributes that fit, the kind of an attribute does not take one byte. -/
  | kind (htype : 0 ≤ packet.type ∧ packet.type ≤ 65535) {before after : List Attribute}
      {a : Attribute} (hsplit : packet.attributes = before ++ a :: after)
      (hbefore : ∀ b ∈ before, Expressible b) (hkind : ¬ (0 ≤ a.kind ∧ a.kind ≤ 255)) :
      Violation packet (.kindOutOfRange a.kind) .value
  /-- Behind attributes that fit, an attribute has a kind of one byte and a payload whose length
  two bytes cannot express. -/
  | payload (htype : 0 ≤ packet.type ∧ packet.type ≤ 65535) {before after : List Attribute}
      {a : Attribute} (hsplit : packet.attributes = before ++ a :: after)
      (hbefore : ∀ b ∈ before, Expressible b) (hkind : 0 ≤ a.kind ∧ a.kind ≤ 255)
      (hpayload : 32767 < a.payload.length) :
      Violation packet (.payloadTooLong a.payload.length) .lengthEncoding
  /-- All attributes fit, and together they take more bytes than the header can declare. -/
  | total (htype : 0 ≤ packet.type ∧ packet.type ≤ 65535)
      (hall : ∀ a ∈ packet.attributes, Expressible a)
      (htotal : 65535 < shortestTotal packet.attributes) :
      Violation packet (.sectionTooLong (shortestTotal packet.attributes)) .lengthEncoding

namespace Packet

/-- A packet has a frame exactly when it violates no bound. -/
theorem exists_encode_iff {packet : Packet} :
    (∃ frame, packet.encode = .ok frame) ↔
      (0 ≤ packet.type ∧ packet.type ≤ 65535) ∧ (∀ a ∈ packet.attributes, Expressible a) ∧
        shortestTotal packet.attributes ≤ 65535 := by
  constructor
  · rintro ⟨frame, h⟩
    obtain ⟨-, htype, hfits, htotal, -⟩ := encode_eq_ok_iff.mp h
    refine ⟨htype, allFit_leastSpelling_iff.mp hfits, ?_⟩
    rw [← length_sectionBytes_least]
    exact htotal
  · rintro ⟨htype, hall, htotal⟩
    rw [← length_sectionBytes_least] at htotal
    exact ⟨_, encode_eq_ok_iff.mpr
      ⟨length_leastForms _, htype, allFit_leastSpelling_iff.mpr hall, htotal, rfl⟩⟩

/-- A packet that is rejected violates the bound that it is rejected for, and none before it. -/
theorem violation_of_encode {packet : Packet} {fault : Fault}
    (h : packet.encode = .error fault) : Violation packet fault fault.errorClass := by
  have hrejected := h
  rcases bind_eq_error_iff.mp h with hcheck | ⟨_, hcheck, h⟩
  · obtain ⟨htype, rfl⟩ := checkRange_eq_error_iff.mp hcheck
    exact .type htype
  have htype := checkRange_eq_ok_iff.mp hcheck
  rcases bind_eq_error_iff.mp h with hsize | ⟨size, hsize, h⟩
  · obtain ⟨before, a, after, hsplit, hbefore, ha⟩ := sectionSize_eq_error_iff.mp hsize
    rcases attributeSize_eq_error_iff.mp ha with ⟨hkind, rfl⟩ | ⟨hkind, hpayload, rfl⟩
    · exact .kind htype hsplit hbefore hkind
    · exact .payload htype hsplit hbefore hkind hpayload
  obtain ⟨hfits, rfl⟩ := sectionSize_eq_ok_iff.mp hsize
  have hall := allFit_leastSpelling_iff.mp hfits
  rw [length_sectionBytes_least] at h
  by_cases hlarge : maxSection < shortestTotal packet.attributes
  · rw [if_pos hlarge] at h
    obtain rfl := Except.error.inj h
    exact .total htype hall hlarge
  · -- Nothing fails behind the checks: the packet has a frame.
    obtain ⟨frame, hframe⟩ := exists_encode_iff.mpr ⟨htype, hall, Nat.le_of_not_lt hlarge⟩
    cases hframe.symm.trans hrejected

/-- A packet is rejected for a bound that it violates, if it violates none before it. -/
theorem encode_of_violation {packet : Packet} {fault : Fault} {errorClass : ErrorClass}
    (h : Violation packet fault errorClass) : packet.encode = .error fault := by
  cases h with
  | type htype => exact bind_eq_error_iff.mpr (.inl (checkRange_eq_error_iff.mpr ⟨htype, rfl⟩))
  | kind htype hsplit hbefore hkind =>
    refine bind_eq_error_iff.mpr (.inr ⟨(), checkRange_eq_ok_iff.mpr htype, ?_⟩)
    refine bind_eq_error_iff.mpr (.inl (sectionSize_eq_error_iff.mpr
      ⟨_, _, _, hsplit, hbefore, ?_⟩))
    exact attributeSize_eq_error_iff.mpr (.inl ⟨hkind, rfl⟩)
  | payload htype hsplit hbefore hkind hpayload =>
    refine bind_eq_error_iff.mpr (.inr ⟨(), checkRange_eq_ok_iff.mpr htype, ?_⟩)
    refine bind_eq_error_iff.mpr (.inl (sectionSize_eq_error_iff.mpr
      ⟨_, _, _, hsplit, hbefore, ?_⟩))
    exact attributeSize_eq_error_iff.mpr (.inr ⟨hkind, hpayload, rfl⟩)
  | total htype hall htotal =>
    refine bind_eq_error_iff.mpr (.inr ⟨(), checkRange_eq_ok_iff.mpr htype, ?_⟩)
    have hsize := sectionSize_eq_ok_iff.mpr ⟨allFit_leastSpelling_iff.mpr hall, rfl⟩
    rw [length_sectionBytes_least] at hsize
    refine bind_eq_error_iff.mpr (.inr ⟨_, hsize, ?_⟩)
    exact if_pos htotal

/-- **Every outcome of encoding.** A packet has a frame exactly when its type and the attributes fit
and the section is not too long. Else it is rejected for the first bound it violates, and for
nothing else. An attribute that does not fit is reported before a section that is too long, wherever
it stands. -/
theorem encode_outcome (packet : Packet) :
    ((∃ frame, packet.encode = .ok frame) ↔
      (0 ≤ packet.type ∧ packet.type ≤ 65535) ∧ (∀ a ∈ packet.attributes, Expressible a) ∧
        shortestTotal packet.attributes ≤ 65535) ∧
      (∀ fault, packet.encode = .error fault ↔ Violation packet fault fault.errorClass) ∧
      ∀ a ∈ packet.attributes, ¬ Expressible a →
        ∀ size, packet.encode ≠ .error (.sectionTooLong size) := by
  refine ⟨exists_encode_iff, fun _ => ⟨violation_of_encode, encode_of_violation⟩, ?_⟩
  intro a ha hunfit size h
  cases violation_of_encode h with
  | total htype hall htotal => exact hunfit (hall a ha)

/-- Two payloads of the greatest length make the section too long, and the kind behind them is
reported. -/
theorem encode_outcome_last_kind :
    (∀ size, Packet.encode { type := 1, attributes := [{ kind := 3, payload := .replicate 32767 0 },
        { kind := 4, payload := .replicate 32767 0 }, { kind := 256 }] } ≠
      .error (.sectionTooLong size)) ∧
    Packet.encode { type := 1, attributes := [{ kind := 3, payload := .replicate 32767 0 },
        { kind := 4, payload := .replicate 32767 0 }, { kind := 256 }] } =
      .error (.kindOutOfRange 256) := by
  have hlength : (List.replicate 32767 (0 : UInt8)).length = 32767 := List.length_replicate
  generalize List.replicate 32767 (0 : UInt8) = payload at hlength ⊢
  have htype : (0 : Int) ≤ 1 ∧ (1 : Int) ≤ 65535 := by decide
  have hkind : ¬ ((0 : Int) ≤ 256 ∧ (256 : Int) ≤ 255) := by decide
  have hunfit : ¬ Expressible { kind := 256 } := fun h => hkind h.1
  have hfits (kind : Int) (hkind : 0 ≤ kind ∧ kind ≤ 255) : Expressible { kind, payload } :=
    ⟨hkind, Nat.le_of_eq hlength⟩
  have hbefore : ∀ b ∈ [{ kind := 3, payload }, { kind := 4, payload }], Expressible b :=
    List.forall_mem_cons.mpr
      ⟨hfits 3 (by decide), List.forall_mem_singleton.mpr (hfits 4 (by decide))⟩
  obtain ⟨-, hrejected, hfirst⟩ := encode_outcome
    { type := 1, attributes := [{ kind := 3, payload }, { kind := 4, payload }, { kind := 256 }] }
  refine ⟨hfirst { kind := 256 } ?_ hunfit, (hrejected _).mpr ?_⟩
  · exact List.mem_cons_of_mem _ (List.mem_cons_of_mem _ List.mem_cons_self)
  · exact @Violation.kind _ htype [{ kind := 3, payload }, { kind := 4, payload }] []
      { kind := 256 } rfl hbefore hkind

end Packet

end TunerWire

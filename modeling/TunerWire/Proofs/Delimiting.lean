import Mathlib.Tactic.ByContra
import TunerWire.Proofs.Refusal

/-!
# Frames that follow each other

A frame says how long it is: a frame that is accepted is eight bytes longer than its header declares
the section to be, no more and no less. So bytes 2 and 3 determine the length of an accepted frame
(`Accepted.length_eq_of_sectionField`). A frame that is cut off or goes on is refused even if its
checksum is made good again (`reclose`), and frames that follow each other without a gap can be told
apart: the bytes of a stream show the frames that it consists of (`eq_of_flatten_eq`).
-/

namespace TunerWire

namespace Frame

/-- Decoding accepts the frame. -/
def Accepted (frame : Bytes) : Prop := ∃ packet, Packet.decode frame = .ok packet

/-- The bytes with a good checksum in the place of the last four. -/
def reclose (bytes : Bytes) : Bytes := withChecksum (bytes.take (bytes.length - checksumSize))

/-! ### The length of an accepted frame -/

theorem exists_error_of_not_accepted {frame : Bytes} (h : ¬ Accepted frame) :
    ∃ fault, Packet.decode frame = .error fault := by
  cases hdecode : Packet.decode frame with
  | ok packet => exact absurd ⟨packet, hdecode⟩ h
  | error fault => exact ⟨fault, rfl⟩

theorem Accepted.minSize_le {frame : Bytes} (h : Accepted frame) : minSize ≤ frame.length :=
  (Packet.exists_decode_iff.mp h).1

theorem Accepted.declaredSection_eq {frame : Bytes} (h : Accepted frame) :
    declaredSection frame = frame.length - minSize :=
  (Packet.exists_decode_iff.mp h).2.2.1

theorem Accepted.length_eq_of_sectionField {frame other : Bytes} (h : Accepted frame)
    (h' : Accepted other) (hfield : sectionField frame = sectionField other) :
    frame.length = other.length := by
  have hdeclared : declaredSection frame = declaredSection other :=
    congrArg Octets.ofBigEndian hfield
  have hsize := h.minSize_le
  have hsize' := h'.minSize_le
  rw [h.declaredSection_eq, h'.declaredSection_eq] at hdeclared
  omega

/-- A frame that declares the section length of an accepted frame of another length is refused, and
with a good checksum it is refused for the section length. -/
theorem Accepted.decode_of_length_ne {frame received : Bytes} (h : Accepted frame)
    (hfield : sectionField received = sectionField frame)
    (hlength : received.length ≠ frame.length) :
    (∃ fault, Packet.decode received = .error fault) ∧
      (minSize ≤ received.length → carriedChecksum received = computedChecksum received →
        Packet.decode received =
          .error (.sectionMismatch (frame.length - minSize) (received.length - minSize))) := by
  refine ⟨exists_error_of_not_accepted fun hreceived =>
    hlength (hreceived.length_eq_of_sectionField h hfield), fun hsize hsum => ?_⟩
  have hdeclared : declaredSection received = frame.length - minSize := by
    rw [← h.declaredSection_eq]
    exact congrArg Octets.ofBigEndian hfield
  have hsize' := h.minSize_le
  rw [Packet.decode_of_declared_ne hsize hsum (by omega), hdeclared]

/-! ### Frames that are cut off or go on -/

theorem sectionField_append {front : Bytes} (hfront : headerSize ≤ front.length) (rest : Bytes) :
    sectionField (front ++ rest) = sectionField front := by
  rw [headerSize] at hfront
  rw [sectionField, sectionField, List.drop_append_of_le_length (by omega),
    List.take_append_of_le_length (by rw [List.length_drop]; omega)]

theorem length_reclose {bytes : Bytes} (hsize : checksumSize ≤ bytes.length) :
    (reclose bytes).length = bytes.length := by
  rw [reclose, length_withChecksum, List.length_take]
  omega

theorem sectionField_reclose {bytes : Bytes} (hsize : minSize ≤ bytes.length) :
    sectionField (reclose bytes) = sectionField bytes := by
  have hbody : headerSize ≤ (bytes.take (bytes.length - checksumSize)).length := by
    rw [minSize] at hsize
    rw [List.length_take]
    omega
  rw [reclose, withChecksum, sectionField_append hbody, sectionField_take hsize]

theorem not_accepted_of_length_lt {bytes : Bytes} (hsmall : bytes.length < minSize) :
    ¬ Accepted bytes :=
  fun h => Nat.not_le.mpr hsmall h.minSize_le

theorem Accepted.not_accepted_of_sectionField {frame bytes : Bytes} (h : Accepted frame)
    (hfield : minSize ≤ bytes.length → sectionField bytes = sectionField frame)
    (hlength : bytes.length ≠ frame.length) :
    ¬ Accepted bytes ∧ ¬ Accepted (reclose bytes) := by
  by_cases hsize : minSize ≤ bytes.length
  · have hwhole : checksumSize ≤ bytes.length := Nat.le_trans (by decide) hsize
    refine ⟨fun h' => hlength (h'.length_eq_of_sectionField h (hfield hsize)), fun h' => ?_⟩
    apply hlength
    rw [← length_reclose hwhole]
    exact h'.length_eq_of_sectionField h ((sectionField_reclose hsize).trans (hfield hsize))
  · have hsmall := Nat.lt_of_not_le hsize
    refine ⟨not_accepted_of_length_lt hsmall, not_accepted_of_length_lt ?_⟩
    rw [minSize, headerSize, checksumSize] at hsmall
    rw [reclose, length_withChecksum, List.length_take, minSize, headerSize, checksumSize]
    omega

theorem sectionField_eq_of_isPrefix {bytes bytes' : Bytes} (h : bytes <+: bytes')
    (hsize : minSize ≤ bytes.length) : sectionField bytes = sectionField bytes' := by
  obtain ⟨rest, rfl⟩ := h
  rw [sectionField_append (Nat.le_trans (by decide) hsize)]

/-- An accepted frame that is cut off or goes on is refused, and with a good checksum too. -/
theorem Accepted.not_accepted_of_isPrefix {frame bytes : Bytes} (h : Accepted frame)
    (hpart : bytes <+: frame ∨ frame <+: bytes) (hne : bytes ≠ frame) :
    ¬ Accepted bytes ∧ ¬ Accepted (reclose bytes) := by
  rcases hpart with hshorter | hlonger
  · refine h.not_accepted_of_sectionField (sectionField_eq_of_isPrefix hshorter) fun hlength => ?_
    exact hne (hshorter.eq_of_length hlength)
  · have hfield := sectionField_eq_of_isPrefix hlonger h.minSize_le
    refine h.not_accepted_of_sectionField (fun _ => hfield.symm) fun hlength => ?_
    exact hne (hlonger.eq_of_length hlength.symm).symm

/-! ### Streams -/

/-- The first frame of a stream is determined by the stream, and so is the rest. -/
theorem Accepted.append_inj {frame other rest rest' : Bytes} (h : Accepted frame)
    (h' : Accepted other) (heq : frame ++ rest = other ++ rest') :
    frame = other ∧ rest = rest' := by
  have hheader : headerSize ≤ frame.length := Nat.le_trans (by decide) h.minSize_le
  have hheader' : headerSize ≤ other.length := Nat.le_trans (by decide) h'.minSize_le
  have hfield : sectionField frame = sectionField other := by
    rw [← sectionField_append hheader rest, heq, sectionField_append hheader']
  exact List.append_inj heq (h.length_eq_of_sectionField h' hfield)

theorem Accepted.append_ne_nil {frame : Bytes} (h : Accepted frame) (rest : Bytes) :
    frame ++ rest ≠ [] := by
  intro hnil
  have hsize := h.minSize_le
  rw [(List.append_eq_nil_iff.mp hnil).1] at hsize
  exact absurd hsize (by decide)

/-- **A stream of frames shows its frames.** -/
theorem eq_of_flatten_eq {frames others : List Bytes} (h : ∀ frame ∈ frames, Accepted frame)
    (h' : ∀ other ∈ others, Accepted other) (heq : frames.flatten = others.flatten) :
    frames = others := by
  induction frames generalizing others with
  | nil =>
    cases others with
    | nil => rfl
    | cons other others =>
      exact absurd heq.symm ((h' other List.mem_cons_self).append_ne_nil _)
  | cons frame frames ih =>
    have hframe := h frame List.mem_cons_self
    cases others with
    | nil => exact absurd heq (hframe.append_ne_nil _)
    | cons other others =>
      obtain ⟨rfl, hrest⟩ := hframe.append_inj (h' other List.mem_cons_self) heq
      rw [ih (fun f hf => h f (List.mem_cons_of_mem _ hf))
        (fun f hf => h' f (List.mem_cons_of_mem _ hf)) hrest]

/-- **Accepted frames delimit themselves.** Bytes 2 and 3 determine the length of an accepted frame:
bytes of another length that have the same bytes there are refused, and where their checksum is good
they are refused for the section length. So no accepted frame is a proper beginning of another, and
an accepted frame that is cut off or goes on is refused, also with a new checksum in the place of
its last four bytes. A stream of accepted frames determines its frames. -/
theorem accepted_self_delimiting :
    (∀ frame other, Accepted frame → Accepted other → sectionField frame = sectionField other →
      frame.length = other.length) ∧
    (∀ frame received, Accepted frame → sectionField received = sectionField frame →
      received.length ≠ frame.length →
      (∃ fault, Packet.decode received = .error fault) ∧
        (8 ≤ received.length → carriedChecksum received = computedChecksum received →
          Packet.decode received =
            .error (.sectionMismatch (frame.length - 8) (received.length - 8)))) ∧
    (∀ frame other, Accepted frame → Accepted other → frame <+: other → frame = other) ∧
    (∀ frame bytes, Accepted frame → bytes <+: frame ∨ frame <+: bytes → bytes ≠ frame →
      (∃ fault, Packet.decode bytes = .error fault) ∧
        ∃ fault, Packet.decode (reclose bytes) = .error fault) ∧
    ∀ frames others : List Bytes, (∀ frame ∈ frames, Accepted frame) →
      (∀ other ∈ others, Accepted other) → frames.flatten = others.flatten → frames = others := by
  refine ⟨fun _ _ => Accepted.length_eq_of_sectionField,
    fun _ _ => Accepted.decode_of_length_ne, ?_, ?_, fun _ _ => eq_of_flatten_eq⟩
  · intro frame other h h' hpart
    by_contra hne
    exact (h'.not_accepted_of_isPrefix (.inl hpart) hne).1 h
  · intro frame bytes h hpart hne
    obtain ⟨hbytes, hreclosed⟩ := h.not_accepted_of_isPrefix hpart hne
    exact ⟨exists_error_of_not_accepted hbytes, exists_error_of_not_accepted hreclosed⟩

/-- A frame with one more byte is refused for its section length once its checksum is made good, and
two frames behind each other are read as these two in one way only. -/
theorem accepted_self_delimiting_stream :
    Accepted [0, 1, 0, 5, 3, 1, 170, 4, 0, 132, 133, 241, 53] ∧
      Accepted [0, 2, 0, 0, 114, 11, 192, 34] ∧
      Packet.decode (reclose [0, 1, 0, 5, 3, 1, 170, 4, 0, 132, 133, 241, 53, 0]) =
        .error (.sectionMismatch 5 6) ∧
      (∃ fault, Packet.decode (reclose [0, 1, 0, 5, 3, 1, 170, 4, 0, 132, 133, 241]) =
        .error fault) ∧
      ∀ others, (∀ other ∈ others, Accepted other) →
        [0, 1, 0, 5, 3, 1, 170, 4, 0, 132, 133, 241, 53, 0, 2, 0, 0, 114, 11, 192, 34] =
          others.flatten →
        [[0, 1, 0, 5, 3, 1, 170, 4, 0, 132, 133, 241, 53], [0, 2, 0, 0, 114, 11, 192, 34]] =
          others := by
  have hfirst : Accepted [0, 1, 0, 5, 3, 1, 170, 4, 0, 132, 133, 241, 53] :=
    ⟨{ type := 1, attributes := [{ kind := 3, payload := [170] }, { kind := 4 }] },
      by decide +kernel⟩
  have hsecond : Accepted [0, 2, 0, 0, 114, 11, 192, 34] := ⟨{ type := 2 }, by decide +kernel⟩
  obtain ⟨-, hlonger, -, hshorter, hstream⟩ := accepted_self_delimiting
  refine ⟨hfirst, hsecond, ?_, ?_, fun others hothers heq => ?_⟩
  · have h := hlonger _ (reclose [0, 1, 0, 5, 3, 1, 170, 4, 0, 132, 133, 241, 53, 0]) hfirst
      (by decide +kernel) (by decide +kernel)
    exact h.2 (by decide +kernel) (by decide +kernel)
  · exact (hshorter _ [0, 1, 0, 5, 3, 1, 170, 4, 0, 132, 133, 241] hfirst
      (.inl ⟨[53], rfl⟩) (by decide)).2
  · have hframes : ∀ frame ∈ ([[0, 1, 0, 5, 3, 1, 170, 4, 0, 132, 133, 241, 53],
        [0, 2, 0, 0, 114, 11, 192, 34]] : List Bytes), Accepted frame := by
      intro frame hframe
      rcases List.mem_cons.mp hframe with rfl | hframe
      · exact hfirst
      · rw [List.mem_singleton.mp hframe]
        exact hsecond
    exact hstream _ others hframes hothers heq

end Frame

end TunerWire

import TunerWire.Proofs.Rounds

/-!
# Two trailers

The window on a length goes behind the section where the section ends within it, so bytes of the
trailer are read, they count in the length, and the cursor goes over them. Here the rounds over one
section are compared before two trailers.

Where a length lies within the section, it is the same before both; otherwise it ends behind the
section before both, whatever the trailers hold (`tag_eq_or_past`). A round that is completed reads
its length within the section, so it is completed in the same way before the other trailer
(`step_trailer`), and so are all rounds (`Rounds.before_trailer`). A round that is refused is refused
before both, with the same count of bytes that remain (`step_error_trailer`). Only where its length
ends behind the section may a trailer show, in the length that is reported as declared.
-/

namespace TunerWire.Frame

open Cursor

section Trailers

variable {front trailer trailer' : Bytes} {stop : Nat} {cursor next final : Cursor}
  {kind : UInt8} {trap : Trap} {tag tag' : TagLength.Reading} {tags : List TagLength.Reading}

/-! ### Before a trailer -/

theorem byteAt_append_left {index : Nat} (h : index < front.length) :
    byteAt (front ++ trailer) index = byteAt front index := by
  rw [byteAt, byteAt, List.getElem?_append_left h]

theorem slice_append_left {start : Nat} (hstart : start ≤ stop) (hstop : stop ≤ front.length) :
    slice (front ++ trailer) start stop = slice front start stop := by
  rw [slice, slice, List.drop_append_of_le_length (Nat.le_trans hstart hstop),
    List.take_append_of_le_length (by rw [List.length_drop]; omega)]

theorem window_append_left (h : cursor.index < front.length) :
    cursor.window (front ++ trailer) = lengthWindow trailer (front.drop (cursor.index + 1)) := by
  rw [window, slice, Nat.add_sub_cancel_left, List.drop_append_of_le_length h,
    lengthWindow_eq_take]

theorem room_append (htrailer : TagLength.windowSize ≤ trailer.length) :
    front.length + TagLength.windowSize ≤ (front ++ trailer).length := by
  rw [List.length_append]
  omega

/-! ### One round before two trailers -/

theorem read_window_trailer (htrailer' : TagLength.windowSize ≤ trailer'.length)
    (hlt : cursor.index < front.length)
    (htag : TagLength.read (cursor.window (front ++ trailer)) = .ok tag)
    (hwithin : cursor.index + 1 + tag.used ≤ front.length) :
    TagLength.read (cursor.window (front ++ trailer')) = .ok tag := by
  rw [window_append_left hlt] at htag ⊢
  obtain ⟨form, rest, hadmits, hused, hremaining⟩ := bytes_of_read_lengthWindow htag
    (by rw [List.length_drop]; omega)
  rw [hremaining, read_lengthWindow_bytes htrailer' hadmits, ← hused]

/-- **A length is the same before both trailers, or it ends behind the section before both.** -/
theorem tag_eq_or_past (htrailer : TagLength.windowSize ≤ trailer.length)
    (htrailer' : TagLength.windowSize ≤ trailer'.length) (hlt : cursor.index < front.length)
    (htag : TagLength.read (cursor.window (front ++ trailer)) = .ok tag)
    (htag' : TagLength.read (cursor.window (front ++ trailer')) = .ok tag') :
    tag' = tag ∨
      front.length < cursor.index + 1 + tag.used ∧
        front.length < cursor.index + 1 + tag'.used := by
  by_cases hwithin : cursor.index + 1 + tag.used ≤ front.length
  · have hsame := read_window_trailer htrailer' hlt htag hwithin
    exact .inl (Except.ok.inj (htag'.symm.trans hsame))
  · by_cases hwithin' : cursor.index + 1 + tag'.used ≤ front.length
    · have hsame := read_window_trailer htrailer hlt htag' hwithin'
      exact .inl (Except.ok.inj (hsame.symm.trans htag))
    · exact .inr ⟨Nat.lt_of_not_le hwithin, Nat.lt_of_not_le hwithin'⟩

/-- **A round that is completed before one trailer is completed in the same way before the other**,
and reads the same length. -/
theorem step_trailer (htrailer' : TagLength.windowSize ≤ trailer'.length)
    (hlt : cursor.index < front.length)
    (htag : TagLength.read (cursor.window (front ++ trailer)) = .ok tag)
    (hstep : cursor.step (front ++ trailer) front.length = .ok next) :
    TagLength.read (cursor.window (front ++ trailer')) = .ok tag ∧
      cursor.step (front ++ trailer') front.length = .ok next := by
  obtain ⟨kind, hkind⟩ := exists_byteAt hlt
  rw [step_of_read ((byteAt_append_left hlt).trans hkind) htag] at hstep
  split at hstep
  · cases hstep
  · next hfit =>
    have htag' := read_window_trailer htrailer' hlt htag (by omega)
    rw [slice_append_left (by omega) (by omega)] at hstep
    rw [step_of_read ((byteAt_append_left hlt).trans hkind) htag', if_neg hfit,
      slice_append_left (by omega) (by omega)]
    exact ⟨htag', hstep⟩

/-- A round that is refused before one trailer is refused before the other, with the same kind and
the same count of bytes that remain: none where the lengths that are read end behind the section. -/
theorem step_error_trailer (htrailer : TagLength.windowSize ≤ trailer.length)
    (htrailer' : TagLength.windowSize ≤ trailer'.length) (hlt : cursor.index < front.length)
    (hkind : byteAt front cursor.index = .ok kind)
    (htag : TagLength.read (cursor.window (front ++ trailer)) = .ok tag)
    (htag' : TagLength.read (cursor.window (front ++ trailer')) = .ok tag')
    (hstep : cursor.step (front ++ trailer) front.length = .error trap) :
    ∃ left, trap = .fault (.attributeOverrun kind tag.length left) ∧
      cursor.step (front ++ trailer') front.length =
        .error (.fault (.attributeOverrun kind tag'.length left)) := by
  rw [step_of_read ((byteAt_append_left hlt).trans hkind) htag] at hstep
  split at hstep
  · next hpast =>
    obtain rfl := Except.error.inj hstep
    refine ⟨_, rfl, ?_⟩
    rw [step_of_read ((byteAt_append_left hlt).trans hkind) htag']
    obtain rfl | ⟨hused, hused'⟩ := tag_eq_or_past htrailer htrailer' hlt htag htag'
    · rw [if_pos hpast]
    · rw [if_pos (by omega), Nat.sub_eq_zero_of_le (Nat.le_of_lt hused),
        Nat.sub_eq_zero_of_le (Nat.le_of_lt hused')]
  · cases hstep

/-! ### Rounds before two trailers -/

/-- **Rounds before one trailer are rounds before the other.** -/
theorem Rounds.before_trailer (htrailer' : TagLength.windowSize ≤ trailer'.length)
    (h : Rounds (front ++ trailer) front.length cursor tags final) :
    Rounds (front ++ trailer') front.length cursor tags final := by
  induction h with
  | nil => exact .nil _
  | cons hlt htag hstep _ ih =>
    obtain ⟨htag', hstep'⟩ := step_trailer htrailer' hlt htag hstep
    exact .cons hlt htag' hstep' ih

end Trailers

/-! ### Runs -/

/-- The run over a section between a header and a trailer. -/
def sectionRun (header body trailer : Bytes) : Except Trap (List Attribute) :=
  Cursor.run (header ++ body ++ trailer) (header ++ body).length
    { index := header.length, attributes := [] }

/-- The run over a section is refused behind these rounds, at this cursor, where a kind and a length
are read and fewer bytes than that length are left in the section. -/
structure RefusedAt (header body trailer : Bytes) (tags : List TagLength.Reading) (cursor : Cursor)
    (kind : UInt8) (tag : TagLength.Reading) (left : Nat) : Prop where
  /-- The rounds before are completed. -/
  rounds : Rounds (header ++ body ++ trailer) (header ++ body).length
    { index := header.length, attributes := [] } tags cursor
  /-- There is a kind at the cursor. -/
  kind_eq : byteAt (header ++ body ++ trailer) cursor.index = .ok kind
  /-- There is a length behind the kind. -/
  reads : TagLength.read (cursor.window (header ++ body ++ trailer)) = .ok tag
  /-- The round that begins there is refused. -/
  step_eq : cursor.step (header ++ body ++ trailer) (header ++ body).length =
    .error (.fault (.attributeOverrun kind tag.length left))
  /-- So the run is refused, and it reports the kind, the length and what is left. -/
  run_eq : sectionRun header body trailer =
    .error (.fault (.attributeOverrun kind tag.length left))

/-- The run over a section is the recursion on what remains of it. -/
theorem sectionRun_eq (header body : Bytes) {trailer : Bytes}
    (htrailer : TagLength.windowSize ≤ trailer.length) :
    sectionRun header body trailer = (readAttributes trailer [] body).mapError .fault := by
  rw [sectionRun, List.append_assoc, List.length_append]
  exact Cursor.run_eq htrailer header body []

/-- **The trailer has no say in a run.** Before any two trailers of four bytes, a run over a section
comes to the same attributes, or it is refused behind the same rounds at the same cursor, with the
same kind and the same count of bytes that are left. The lengths that are reported there differ only
where the length of that attribute ends behind the section. -/
theorem sectionRun_trailers (header body : Bytes) {trailer trailer' : Bytes}
    (htrailer : trailer.length = 4) (htrailer' : trailer'.length = 4) :
    ((∃ attributes, sectionRun header body trailer = .ok attributes ∧
        sectionRun header body trailer' = .ok attributes) ∨
      ∃ tags cursor kind tag tag' left,
        RefusedAt header body trailer tags cursor kind tag left ∧
        RefusedAt header body trailer' tags cursor kind tag' left ∧
        (tag'.length ≠ tag.length →
          (header ++ body).length < cursor.index + 1 + tag.used ∧
            (header ++ body).length < cursor.index + 1 + tag'.used)) ∧
    sectionRun header body trailer = (readAttributes trailer [] body).mapError .fault ∧
    sectionRun header body trailer' = (readAttributes trailer' [] body).mapError .fault := by
  have hwindow : TagLength.windowSize ≤ trailer.length := by
    rw [htrailer, TagLength.windowSize]
    decide
  have hwindow' : TagLength.windowSize ≤ trailer'.length := by
    rw [htrailer', TagLength.windowSize]
    decide
  refine ⟨?_, sectionRun_eq header body hwindow, sectionRun_eq header body hwindow'⟩
  obtain ⟨tags, cursor, hrounds, hend⟩ :=
    exists_rounds (room_append hwindow) { index := header.length, attributes := [] }
      (show header.length ≤ (header ++ body).length by rw [List.length_append]; omega)
  have hrounds' := hrounds.before_trailer hwindow'
  obtain hindex | ⟨hlt, trap, hstep⟩ := hend
  · have hstop := Nat.le_of_eq hindex.symm
    exact .inl ⟨cursor.attributes, hrounds.run_eq.trans (run_of_le hstop),
      hrounds'.run_eq.trans (run_of_le hstop)⟩
  · obtain ⟨kind, hkind⟩ := exists_byteAt hlt
    obtain ⟨tag, htag⟩ := exists_read (length_window (room_append hwindow) hlt)
    obtain ⟨tag', htag'⟩ := exists_read (length_window (room_append hwindow') hlt)
    obtain ⟨left, rfl, hstep'⟩ :=
      step_error_trailer hwindow hwindow' hlt hkind htag htag' hstep
    refine .inr ⟨tags, cursor, kind, tag, tag', left, ?_, ?_, fun hdeclared => ?_⟩
    · exact ⟨hrounds, (byteAt_append_left hlt).trans hkind, htag, hstep,
        hrounds.run_eq.trans (run_of_error hlt hstep)⟩
    · exact ⟨hrounds', (byteAt_append_left hlt).trans hkind, htag', hstep',
        hrounds'.run_eq.trans (run_of_error hlt hstep')⟩
    · exact (tag_eq_or_past hwindow hwindow' hlt htag htag').resolve_left
        fun hsame => hdeclared (congrArg _ hsame)

/-- The length of the second attribute begins with the last byte of the section. Before one trailer
it is reported as 13061 and before the other as 5. -/
theorem sectionRun_trailers_across_border :
    sectionRun [0, 1, 0, 5] [3, 1, 170, 9, 133] [102, 140, 141, 29] =
        .error (.fault (.attributeOverrun 9 13061 0)) ∧
      sectionRun [0, 1, 0, 5] [3, 1, 170, 9, 133] [0, 0, 0, 0] =
        .error (.fault (.attributeOverrun 9 5 0)) ∧
      ∃ tags cursor tag tag',
        RefusedAt [0, 1, 0, 5] [3, 1, 170, 9, 133] [102, 140, 141, 29] tags cursor 9 tag 0 ∧
        RefusedAt [0, 1, 0, 5] [3, 1, 170, 9, 133] [0, 0, 0, 0] tags cursor 9 tag' 0 ∧
        9 < cursor.index + 1 + tag.used ∧ 9 < cursor.index + 1 + tag'.used := by
  obtain ⟨hend, hread, hread'⟩ := @sectionRun_trailers [0, 1, 0, 5] [3, 1, 170, 9, 133]
    [102, 140, 141, 29] [0, 0, 0, 0] rfl rfl
  have hrun : sectionRun [0, 1, 0, 5] [3, 1, 170, 9, 133] [102, 140, 141, 29] =
      .error (.fault (.attributeOverrun 9 13061 0)) :=
    hread.trans (by decide +kernel)
  have hrun' : sectionRun [0, 1, 0, 5] [3, 1, 170, 9, 133] [0, 0, 0, 0] =
      .error (.fault (.attributeOverrun 9 5 0)) :=
    hread'.trans (by decide +kernel)
  obtain ⟨attributes, hok, -⟩ | ⟨tags, cursor, kind, tag, tag', left, href, href', hpast⟩ := hend
  · cases hok.symm.trans hrun
  · have hreport := href.run_eq.symm.trans hrun
    have hreport' := href'.run_eq.symm.trans hrun'
    simp only [Except.error.injEq, Trap.fault.injEq, Fault.attributeOverrun.injEq]
      at hreport hreport'
    obtain ⟨rfl, hlength, rfl⟩ := hreport
    obtain ⟨-, hlength', -⟩ := hreport'
    exact ⟨hrun, hrun', tags, cursor, tag, tag', href, href',
      hpast (by rw [hlength, hlength']; decide)⟩

end TunerWire.Frame

import TunerWire.Proofs.Grammar

/-!
# Incomplete attributes

A section is refused for the first of its attributes that is not complete: the attributes before it
are all there, and what is left of the section does not hold the length and the payload of this one
(`FirstIncomplete`). The report names the kind of that attribute, and how many bytes of the section
stand behind its length (`readAttributes_eq_error_iff`). Neither depends on the trailer, although a
length at the end of the section is read with its help: the trailer only has a say in the length
that is reported as declared.
-/

namespace TunerWire.Frame

/-! ### One attribute -/

/-- The bytes begin with an attribute, its length and its payload included. -/
def BeginsComplete (body : Bytes) : Prop :=
  ∃ form a rest, Fits form a ∧ body = attributeBytes form a ++ rest

/-- What stands behind the length that a string of bytes begins with: nothing where the length
itself is not all there. -/
def behindLength : Bytes → Bytes
  | [] => []
  | first :: rest => if first.toNat < 128 then rest else rest.drop 1

/-- The fault of an attribute that is not complete: its kind, the length that is read behind the
kind, with the help of the trailer where the section ends, and the bytes of the section behind the
length. -/
def Overruns (trailer : Bytes) (kind : UInt8) (remaining : Bytes) (fault : Fault) : Prop :=
  ∃ tag, TagLength.read (lengthWindow trailer remaining) = .ok tag ∧
    fault = .attributeOverrun kind tag.length (behindLength remaining).length

theorem length_behindLength {trailer remaining : Bytes} {tag : TagLength.Reading}
    (htrailer : TagLength.windowSize ≤ trailer.length)
    (h : TagLength.read (lengthWindow trailer remaining) = .ok tag) :
    (behindLength remaining).length = remaining.length - tag.used := by
  obtain ⟨first, second, hwindow⟩ := List.length_eq_two.mp (length_lengthWindow htrailer remaining)
  rw [hwindow, TagLength.read_pair, Except.ok.injEq] at h
  subst h
  cases remaining with
  | nil => simp [behindLength]
  | cons b rest =>
    obtain rfl : b = first := (List.cons.inj hwindow).1
    rw [behindLength]
    split
    · simp
    · rw [List.length_drop, List.length_cons]
      simp

/-- An attribute is complete where its length and its payload fit what remains of the section. -/
theorem beginsComplete_iff {trailer remaining : Bytes} {tag : TagLength.Reading}
    (htrailer : TagLength.windowSize ≤ trailer.length)
    (h : TagLength.read (lengthWindow trailer remaining) = .ok tag) (kind : UInt8) :
    BeginsComplete (kind :: remaining) ↔ tag.used + tag.length ≤ remaining.length := by
  constructor
  · rintro ⟨form, a, rest, hfits, hbody⟩
    obtain ⟨rfl, rfl⟩ := List.cons.inj hbody
    obtain ⟨tag', htag', hfit, -⟩ :=
      exists_read_of_readAttribute (readAttribute_of_fits htrailer hfits rest)
    obtain rfl := Except.ok.inj (h.symm.trans htag')
    exact hfit
  · intro hfit
    have hread := readAttribute_of_read h kind
    rw [if_neg (Nat.not_lt.mpr hfit)] at hread
    obtain ⟨form, rest, hfits, hbody, -⟩ := fits_of_readAttribute hread
    exact ⟨form, _, rest, hfits, hbody⟩

theorem readAttribute_eq_error_iff {trailer remaining : Bytes} {kind : UInt8} {fault : Fault}
    (htrailer : TagLength.windowSize ≤ trailer.length) :
    readAttribute trailer kind remaining = .error fault ↔
      ¬ BeginsComplete (kind :: remaining) ∧ Overruns trailer kind remaining fault := by
  obtain ⟨tag, htag⟩ := exists_read_lengthWindow htrailer remaining
  rw [readAttribute_of_read htag, beginsComplete_iff htrailer htag, Nat.not_le, Overruns]
  simp only [htag, Except.ok.injEq, exists_eq_left', length_behindLength htrailer htag]
  split
  · next hshort => simp only [hshort, Except.error.injEq, true_and, eq_comm]
  · next hfit => simp only [hfit, false_and, reduceCtorEq]

/-! ### Sections -/

/-- The first attribute of a section that is not complete has this kind, and these bytes of the
section remain behind the kind. -/
structure FirstIncomplete (body : Bytes) (kind : UInt8) (remaining : Bytes) : Prop where
  /-- It stands behind attributes that are complete. -/
  exists_before : ∃ l, AllFit l ∧ body = sectionBytes l ++ kind :: remaining
  /-- It is not complete. -/
  not_complete : ¬ BeginsComplete (kind :: remaining)

theorem FirstIncomplete.head {kind : UInt8} {remaining : Bytes}
    (h : ¬ BeginsComplete (kind :: remaining)) :
    FirstIncomplete (kind :: remaining) kind remaining :=
  ⟨⟨[], allFit_nil, rfl⟩, h⟩

theorem FirstIncomplete.tail {form : Form} {a : Attribute} {rest : Bytes} {kind : UInt8}
    {remaining : Bytes} (hfits : Fits form a) (h : FirstIncomplete rest kind remaining) :
    FirstIncomplete (attributeBytes form a ++ rest) kind remaining := by
  obtain ⟨⟨l, hl, rfl⟩, hincomplete⟩ := h
  refine ⟨⟨(form, a) :: l, allFit_cons.mpr ⟨hfits, hl⟩, ?_⟩, hincomplete⟩
  rw [sectionBytes_cons, List.append_assoc]

/-- **A section is refused for its first attribute that is not complete**, and for nothing else. -/
theorem readAttributes_eq_error_iff {trailer body : Bytes} {fault : Fault}
    (htrailer : TagLength.windowSize ≤ trailer.length) (seen : List Attribute) :
    readAttributes trailer seen body = .error fault ↔
      ∃ kind remaining, FirstIncomplete body kind remaining ∧
        Overruns trailer kind remaining fault := by
  constructor
  · intro h
    fun_induction readAttributes trailer seen body with
    | case1 => cases h
    | case2 seen kind remaining fault' hread =>
      obtain rfl := Except.error.inj h
      obtain ⟨hincomplete, hoverruns⟩ := (readAttribute_eq_error_iff htrailer).mp hread
      exact ⟨kind, remaining, .head hincomplete, hoverruns⟩
    | case3 seen kind remaining reading hread ih =>
      obtain ⟨form, rest, hfits, hbody, rfl⟩ := fits_of_readAttribute hread
      obtain ⟨kind', remaining', hfirst, hoverruns⟩ := ih h
      exact ⟨kind', remaining', hbody ▸ hfirst.tail hfits, hoverruns⟩
  · rintro ⟨kind, remaining, ⟨⟨l, hl, rfl⟩, hincomplete⟩, hoverruns⟩
    rw [readAttributes_sectionBytes_append htrailer hl]
    exact readAttributes_cons_of_error _
      ((readAttribute_eq_error_iff htrailer).mpr ⟨hincomplete, hoverruns⟩)

/-- A section is read unless one of its attributes is not complete. -/
theorem exists_readAttributes_iff {trailer body : Bytes}
    (htrailer : TagLength.windowSize ≤ trailer.length) (seen : List Attribute) :
    (∃ attributes, readAttributes trailer seen body = .ok attributes) ↔
      ¬ ∃ kind remaining, FirstIncomplete body kind remaining := by
  constructor
  · rintro ⟨attributes, h⟩ ⟨kind, remaining, hfirst⟩
    obtain ⟨tag, htag⟩ := exists_read_lengthWindow htrailer remaining
    have herror := (readAttributes_eq_error_iff htrailer seen).mpr
      ⟨kind, remaining, hfirst, tag, htag, rfl⟩
    cases h.symm.trans herror
  · intro h
    cases hread : readAttributes trailer seen body with
    | ok attributes => exact ⟨attributes, rfl⟩
    | error fault =>
      obtain ⟨kind, remaining, hfirst, -⟩ := (readAttributes_eq_error_iff htrailer seen).mp hread
      exact absurd ⟨kind, remaining, hfirst⟩ h

/-! ### Trailers -/

/-- Two reports of an attribute that is not complete, which agree in its kind and in what remains of
the section behind its length. -/
def SameOverrun (fault fault' : Fault) : Prop :=
  ∃ kind declared declared' left, fault = .attributeOverrun kind declared left ∧
    fault' = .attributeOverrun kind declared' left

theorem SameOverrun.errorClass_eq {fault fault' : Fault} (h : SameOverrun fault fault') :
    fault.errorClass = .truncatedInput ∧ fault'.errorClass = .truncatedInput := by
  obtain ⟨kind, declared, declared', left, rfl, rfl⟩ := h
  exact ⟨rfl, rfl⟩

/-- **What is read from a section does not depend on the trailer**: before any two trailers of two
bytes or more the attributes are the same, or the same one is refused. -/
theorem readAttributes_trailers {trailer trailer' : Bytes}
    (htrailer : TagLength.windowSize ≤ trailer.length)
    (htrailer' : TagLength.windowSize ≤ trailer'.length) (body : Bytes) :
    (∃ attributes, readAttributes trailer [] body = .ok attributes ∧
        readAttributes trailer' [] body = .ok attributes) ∨
      ∃ fault fault', readAttributes trailer [] body = .error fault ∧
        readAttributes trailer' [] body = .error fault' ∧ SameOverrun fault fault' := by
  cases hread : readAttributes trailer [] body with
  | ok attributes =>
    have hlaid := (readAttributes_eq_ok_iff htrailer).mp hread
    exact .inl ⟨attributes, rfl, (readAttributes_eq_ok_iff htrailer').mpr hlaid⟩
  | error fault =>
    obtain ⟨kind, remaining, hfirst, tag, htag, rfl⟩ :=
      (readAttributes_eq_error_iff htrailer []).mp hread
    obtain ⟨tag', htag'⟩ := exists_read_lengthWindow htrailer' remaining
    have hread' := (readAttributes_eq_error_iff htrailer' []).mpr
      ⟨kind, remaining, hfirst, tag', htag', rfl⟩
    exact .inr ⟨_, _, rfl, hread', kind, tag.length, tag'.length, _, rfl, rfl⟩

/-! ### Pieces -/

/-- **A section is read piece by piece**: behind a piece whose attributes are complete, what follows
is read as a section of its own. -/
theorem readAttributes_append {trailer trailer' front : Bytes} {attributes : List Attribute}
    (htrailer : TagLength.windowSize ≤ trailer.length)
    (htrailer' : TagLength.windowSize ≤ trailer'.length)
    (h : readAttributes trailer [] front = .ok attributes) (rest : Bytes) :
    readAttributes trailer' [] (front ++ rest) =
      (readAttributes trailer' [] rest).map (attributes ++ ·) := by
  obtain ⟨l, hl, rfl, rfl⟩ := (readAttributes_eq_ok_iff htrailer).mp h
  rw [readAttributes_sectionBytes_append htrailer' hl, List.append_nil, readAttributes_eq_map,
    List.reverse_reverse]

end TunerWire.Frame

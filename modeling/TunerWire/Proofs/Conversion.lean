import Mathlib.Data.List.Forall2
import TunerWire.Proofs.Outcome
import TunerWire.Workbench.Entry

/-!
# Converting entries

Entries are converted one after the other. The conversion of a list succeeds when that of each
entry does, and then gives one attribute for each entry in order (`convertEntries_eq_ok_iff`); it
fails as the first entry that cannot be converted does (`convertEntries_eq_error_iff`). An entry is
converted by its kind and, behind that, its payload.
-/

namespace TunerWire.Workbench

/-! ### One entry -/

theorem attributeOf_eq_ok_iff {entry : Json} {a : Attribute} :
    attributeOf entry = .ok a ↔ kindOf entry = .ok a.kind ∧ payloadOf entry = .ok a.payload := by
  constructor
  · intro h
    obtain ⟨kind, hkind, h⟩ := bind_eq_ok_iff.mp h
    obtain ⟨payload, hpayload, h⟩ := bind_eq_ok_iff.mp h
    obtain rfl := Except.ok.inj h
    exact ⟨hkind, hpayload⟩
  · rintro ⟨hkind, hpayload⟩
    exact bind_eq_ok_iff.mpr ⟨_, hkind, bind_eq_ok_iff.mpr ⟨_, hpayload, rfl⟩⟩

/-- An entry fails by its kind, or by its payload once it has a kind. -/
theorem attributeOf_eq_error_iff {entry : Json} {failure : Failure} :
    attributeOf entry = .error failure ↔
      kindOf entry = .error failure ∨
        (∃ kind, kindOf entry = .ok kind) ∧ payloadOf entry = .error failure := by
  constructor
  · intro h
    rcases bind_eq_error_iff.mp h with hkind | ⟨kind, hkind, h⟩
    · exact .inl hkind
    rcases bind_eq_error_iff.mp h with hpayload | ⟨payload, -, h⟩
    · exact .inr ⟨⟨kind, hkind⟩, hpayload⟩
    · cases h
  · rintro (hkind | ⟨⟨kind, hkind⟩, hpayload⟩)
    · exact bind_eq_error_iff.mpr (.inl hkind)
    · exact bind_eq_error_iff.mpr (.inr ⟨kind, hkind, bind_eq_error_iff.mpr (.inl hpayload)⟩)

/-! ### Lists of entries -/

/-- The attributes are those of the entries, one for each in order. -/
def Converts (entries : List Json) (attributes : List Attribute) : Prop :=
  List.Forall₂ (fun entry a => attributeOf entry = .ok a) entries attributes

theorem convertEntries_eq_ok_iff {seen attributes : List Attribute} {entries : List Json} :
    convertEntries seen entries = .ok attributes ↔
      ∃ l, Converts entries l ∧ attributes = seen.reverse ++ l := by
  induction entries generalizing seen with
  | nil =>
    constructor
    · intro h
      exact ⟨[], .nil, by rw [List.append_nil, Except.ok.inj h]⟩
    · rintro ⟨l, hl, rfl⟩
      cases hl
      rw [convertEntries, List.append_nil]
  | cons entry rest ih =>
    constructor
    · intro h
      obtain ⟨a, ha, h⟩ := bind_eq_ok_iff.mp h
      obtain ⟨l, hl, rfl⟩ := ih.mp h
      exact ⟨a :: l, .cons ha hl, by simp⟩
    · rintro ⟨l, hl, rfl⟩
      cases hl with
      | cons ha hl => exact bind_eq_ok_iff.mpr ⟨_, ha, ih.mpr ⟨_, hl, by simp⟩⟩

/-- The entry is the first one of a list that cannot be converted. -/
structure FirstFailure (entries : List Json) (entry : Json) (failure : Failure) : Prop where
  /-- It stands behind entries that can be converted. -/
  exists_split : ∃ before after, entries = before ++ entry :: after ∧
    ∃ attributes, Converts before attributes
  /-- It fails so. -/
  fails : attributeOf entry = .error failure

theorem FirstFailure.head {entry : Json} {failure : Failure} (rest : List Json)
    (h : attributeOf entry = .error failure) : FirstFailure (entry :: rest) entry failure :=
  ⟨⟨[], rest, rfl, [], .nil⟩, h⟩

theorem FirstFailure.tail {entry first : Json} {failure : Failure} {rest : List Json}
    {a : Attribute} (hfirst : attributeOf first = .ok a) (h : FirstFailure rest entry failure) :
    FirstFailure (first :: rest) entry failure := by
  obtain ⟨⟨before, after, rfl, attributes, hbefore⟩, hfails⟩ := h
  exact ⟨⟨first :: before, after, rfl, a :: attributes, .cons hfirst hbefore⟩, hfails⟩

theorem convertEntries_eq_error_iff {seen : List Attribute} {entries : List Json}
    {failure : Failure} :
    convertEntries seen entries = .error failure ↔ ∃ entry, FirstFailure entries entry failure := by
  induction entries generalizing seen with
  | nil =>
    constructor
    · intro h
      cases h
    · rintro ⟨entry, ⟨before, after, h, -⟩, -⟩
      exact absurd h.symm (by simp)
  | cons first rest ih =>
    constructor
    · intro h
      rcases bind_eq_error_iff.mp h with hfirst | ⟨a, hfirst, h⟩
      · exact ⟨first, .head rest hfirst⟩
      · obtain ⟨entry, hentry⟩ := ih.mp h
        exact ⟨entry, hentry.tail hfirst⟩
    · rintro ⟨entry, ⟨before, after, hsplit, attributes, hbefore⟩, hfails⟩
      -- Either the first entry fails, or it is converted and the rest has the failure.
      cases hbefore with
      | nil =>
        obtain ⟨rfl, rfl⟩ := List.cons.inj hsplit
        exact bind_eq_error_iff.mpr (.inl hfails)
      | cons hfirst hbefore =>
        obtain ⟨rfl, rfl⟩ := List.cons.inj hsplit
        exact bind_eq_error_iff.mpr
          (.inr ⟨_, hfirst, ih.mpr ⟨entry, ⟨_, after, rfl, _, hbefore⟩, hfails⟩⟩)

theorem entriesOf_list (entries : List Json) : entriesOf (.list entries) = .ok entries := by
  cases entries <;> rfl

theorem attributesOf_eq_ok_iff {v : Json} {attributes : List Attribute} :
    attributesOf v = .ok attributes ↔
      ∃ entries, entriesOf v = .ok entries ∧ Converts entries attributes := by
  rw [attributesOf, bind_eq_ok_iff]
  simp only [convertEntries_eq_ok_iff, List.reverse_nil, List.nil_append, exists_eq_right']

theorem attributesOf_eq_error_iff {v : Json} {failure : Failure} :
    attributesOf v = .error failure ↔
      entriesOf v = .error failure ∨
        ∃ entries, entriesOf v = .ok entries ∧ ∃ entry, FirstFailure entries entry failure := by
  rw [attributesOf, bind_eq_error_iff]
  simp only [convertEntries_eq_error_iff]

end TunerWire.Workbench

import TunerWire.Proofs.Exchange
import TunerWire.Proofs.Numerals
import TunerWire.Proofs.Violation

/-!
# Which failure building a frame reports

Building a frame converts all entries before it encodes anything. So what is wrong with an entry is
reported before what is wrong with the packet, whatever the type and however far the kinds before
it are out of range, and of several entries the first one counts. Within an entry the order is that
of its fields: there is a kind, the kind is an integer, the payload is hexadecimal text (`Defect`).
An entry without a defect stands for an attribute (`Denotes`), and once all of them do, building
answers with what encoding comes to.

An infinite kind is left out here: it is not reported, it ends the building.
-/

namespace TunerWire

open Text

namespace Workbench

/-! ### Fields -/

/-- A value is no integer, for this failure and its class. -/
inductive NoInteger : Json → Failure → ErrorClass → Prop where
  /-- Nothing, an array or an object is no number. -/
  | shape {v : Json} (h : v.shape = .null ∨ v.shape = .list ∨ v.shape = .object) :
      NoInteger v (.kindShape v.shape) .type
  /-- A double may be no number. -/
  | notNumber : NoInteger (.real .notNumber) .kindNotNumber .value
  /-- A string is not of the form of a numeral. -/
  | malformed {text : String} (h : Numeral.read text.toList = .error .malformed) :
      NoInteger (.string text) (.kindText text.toList) .value
  /-- A numeral has too many digits. -/
  | tooLong {text : String} {digits : Nat}
      (h : Numeral.read text.toList = .error (.tooLong digits)) :
      NoInteger (.string text) (.kindTooLong digits) .value

/-- A value is no payload, for this failure and its class. -/
inductive NoPayload : Json → Failure → ErrorClass → Prop where
  /-- What is no string is no hexadecimal text. -/
  | shape {v : Json} (h : v.shape ≠ .string) : NoPayload v (.payloadShape v.shape) .type
  /-- A string does not spell bytes. -/
  | text {text : String} {position : Nat} (h : Hex.read text.toList = .error position) :
      NoPayload (.string text) (.hexText position) .value

section Field

variable {v : Json} {failure : Failure} {errorClass : ErrorClass}

theorem NoInteger.errorClass_eq (h : NoInteger v failure errorClass) :
    errorClass = failure.errorClass := by
  cases h <;> rfl

theorem NoPayload.errorClass_eq (h : NoPayload v failure errorClass) :
    errorClass = failure.errorClass := by
  cases h <;> rfl

theorem NoInteger.integerOf_eq (h : NoInteger v failure errorClass) :
    integerOf v = .error failure := by
  cases h with
  | shape h => cases v <;> simp [Json.shape] at h <;> rfl
  | notNumber => rfl
  | malformed h => simp only [integerOf, h]
  | tooLong h => simp only [integerOf, h]

/-- What fails to be an integer is no integer for that failure, unless it is infinite. -/
theorem noInteger_of_integerOf (hfinite : ∀ negative, v ≠ .real (.infinite negative))
    (h : integerOf v = .error failure) : NoInteger v failure failure.errorClass := by
  cases v with
  | null =>
    cases h
    exact .shape (.inl rfl)
  | bool value => cases h
  | int value => cases h
  | real value =>
    cases value with
    | finite negative significand exponent => cases h
    | infinite negative => exact absurd rfl (hfinite negative)
    | notNumber =>
      cases h
      exact .notNumber
  | string text =>
    simp only [integerOf] at h
    split at h
    · cases h
    · next hread =>
      cases h
      exact .malformed hread
    · next hread =>
      cases h
      exact .tooLong hread
  | list items =>
    cases h
    exact .shape (.inr (.inl rfl))
  | object members =>
    cases h
    exact .shape (.inr (.inr rfl))

end Field

/-! ### Entries -/

/-- The entry stands for the attribute: its kind is an integer, and its payload is absent or spells
the bytes. -/
structure Denotes (entry : Json) (a : Attribute) : Prop where
  /-- There is a kind, and it is the integer. -/
  kind : ∃ v, entry.get? "kind" = some v ∧ integerOf v = .ok a.kind
  /-- There is no payload and no byte, or there is a text and it spells the bytes. -/
  payload : entry.get? "payload" = none ∧ a.payload = [] ∨
    ∃ text, entry.get? "payload" = some (.string text) ∧ Hex.Spells text.toList a.payload

/-- The first thing that is wrong with an entry, with the class of the failure. -/
inductive Defect (entry : Json) : Failure → ErrorClass → Prop where
  /-- The entry has no fields. -/
  | noFields (h : entry.shape ≠ .object) : Defect entry (.noFields entry.shape) .type
  /-- It has fields and no kind. -/
  | kindAbsent (hobject : entry.shape = .object) (h : entry.get? "kind" = none) :
      Defect entry .kindAbsent .key
  /-- It has a kind that is no integer. -/
  | kind {v : Json} {failure : Failure} {errorClass : ErrorClass}
      (hkind : entry.get? "kind" = some v) (h : NoInteger v failure errorClass) :
      Defect entry failure errorClass
  /-- It has a kind that is an integer, and what it has for a payload is none. -/
  | payload {v w : Json} {z : Int} {failure : Failure} {errorClass : ErrorClass}
      (hkind : entry.get? "kind" = some v) (hinteger : integerOf v = .ok z)
      (hpayload : entry.get? "payload" = some w) (h : NoPayload w failure errorClass) :
      Defect entry failure errorClass

theorem get?_eq_none {entry : Json} (h : entry.shape ≠ .object) (name : String) :
    entry.get? name = none := by
  cases entry with
  | object members => exact absurd rfl h
  | _ => rfl

theorem kindOf_of_shape_ne {entry : Json} (h : entry.shape ≠ .object) :
    kindOf entry = .error (.noFields entry.shape) := by
  cases entry with
  | object members => exact absurd rfl h
  | _ => rfl

theorem kindOf_of_shape {entry : Json} (h : entry.shape = .object) :
    kindOf entry = (entry.get? "kind").elim (.error .kindAbsent) integerOf := by
  cases entry with
  | object members =>
    simp only [kindOf, Json.get?]
    cases Json.lookup "kind" members with
    | none => rfl
    | some v => rfl
  | _ => cases h

theorem kindOf_eq_ok_iff {entry : Json} {z : Int} :
    kindOf entry = .ok z ↔ ∃ v, entry.get? "kind" = some v ∧ integerOf v = .ok z := by
  by_cases hobject : entry.shape = .object
  · rw [kindOf_of_shape hobject]
    cases entry.get? "kind" with
    | none => simp
    | some v => simp
  · simp [get?_eq_none hobject, kindOf_of_shape_ne hobject]

theorem kindOf_eq_error_iff {entry : Json} {failure : Failure} :
    kindOf entry = .error failure ↔
      entry.shape ≠ .object ∧ failure = .noFields entry.shape ∨
      entry.shape = .object ∧ entry.get? "kind" = none ∧ failure = .kindAbsent ∨
      ∃ v, entry.get? "kind" = some v ∧ integerOf v = .error failure := by
  by_cases hobject : entry.shape = .object
  · rw [kindOf_of_shape hobject]
    cases entry.get? "kind" with
    | none => simp [hobject, eq_comm]
    | some v => simp [hobject]
  · simp [get?_eq_none hobject, kindOf_of_shape_ne hobject, hobject, eq_comm]

theorem payloadOf_eq_ok_iff {entry : Json} {bytes : Bytes} :
    payloadOf entry = .ok bytes ↔
      entry.get? "payload" = none ∧ bytes = [] ∨
        ∃ text, entry.get? "payload" = some (.string text) ∧ Hex.Spells text.toList bytes := by
  unfold payloadOf
  split
  · next hget => simp [hget, eq_comm]
  · next text hget => simp [hget, bytesOf_eq_ok_iff]
  · next v hnot hget =>
    have hstring : ∀ text, v ≠ .string text := hnot
    simp [hget, hstring]

theorem NoPayload.payloadOf_eq {entry w : Json} {failure : Failure} {errorClass : ErrorClass}
    (hpayload : entry.get? "payload" = some w) (h : NoPayload w failure errorClass) :
    payloadOf entry = .error failure := by
  unfold payloadOf
  rw [hpayload]
  cases h with
  | shape h => cases w <;> first | rfl | exact absurd rfl h
  | text h => exact mapError_eq_error_iff.mpr ⟨_, h, rfl⟩

theorem noPayload_of_payloadOf {entry : Json} {failure : Failure}
    (h : payloadOf entry = .error failure) :
    ∃ w, entry.get? "payload" = some w ∧ NoPayload w failure failure.errorClass := by
  unfold payloadOf at h
  split at h
  · cases h
  · next text hget =>
    obtain ⟨position, hread, rfl⟩ := mapError_eq_error_iff.mp h
    exact ⟨_, hget, .text hread⟩
  · next v hnot hget =>
    cases h
    refine ⟨v, hget, .shape ?_⟩
    intro hshape
    cases v <;> simp [Json.shape] at hshape
    exact hnot _ rfl

theorem attributeOf_eq_ok_iff_denotes {entry : Json} {a : Attribute} :
    attributeOf entry = .ok a ↔ Denotes entry a := by
  rw [attributeOf_eq_ok_iff, kindOf_eq_ok_iff, payloadOf_eq_ok_iff]
  exact ⟨fun h => ⟨h.1, h.2⟩, fun h => ⟨h.kind, h.payload⟩⟩

section Entry

variable {entry : Json} {failure : Failure} {errorClass : ErrorClass}

theorem Defect.errorClass_eq (h : Defect entry failure errorClass) :
    errorClass = failure.errorClass := by
  cases h with
  | noFields | kindAbsent => rfl
  | kind _ h => exact h.errorClass_eq
  | payload _ _ _ h => exact h.errorClass_eq

theorem Defect.reported (h : Defect entry failure errorClass) :
    Reported [.key, .type, .value] failure := by
  cases h with
  | noFields | kindAbsent => rfl
  | kind _ h => cases h <;> rfl
  | payload _ _ _ h => cases h <;> rfl

/-- An entry with a defect cannot be converted for it. -/
theorem Defect.attributeOf_eq (h : Defect entry failure errorClass) :
    attributeOf entry = .error failure := by
  apply attributeOf_eq_error_iff.mpr
  cases h with
  | noFields hobject => exact .inl (kindOf_eq_error_iff.mpr (.inl ⟨hobject, rfl⟩))
  | kindAbsent hobject h => exact .inl (kindOf_eq_error_iff.mpr (.inr (.inl ⟨hobject, h, rfl⟩)))
  | kind hkind h =>
    exact .inl (kindOf_eq_error_iff.mpr (.inr (.inr ⟨_, hkind, h.integerOf_eq⟩)))
  | payload hkind hinteger hpayload h =>
    exact .inr ⟨⟨_, kindOf_eq_ok_iff.mpr ⟨_, hkind, hinteger⟩⟩, h.payloadOf_eq hpayload⟩

/-- An entry that cannot be converted has a defect, unless its kind is infinite. -/
theorem defect_of_attributeOf
    (hfinite : ∀ negative, entry.get? "kind" ≠ some (.real (.infinite negative)))
    (h : attributeOf entry = .error failure) : Defect entry failure failure.errorClass := by
  rcases attributeOf_eq_error_iff.mp h with hkind | ⟨⟨z, hz⟩, hpayload⟩
  · rcases kindOf_eq_error_iff.mp hkind with ⟨hobject, rfl⟩ | ⟨hobject, habsent, rfl⟩ | ⟨v, hv, h⟩
    · exact .noFields hobject
    · exact .kindAbsent hobject habsent
    · refine .kind hv (noInteger_of_integerOf ?_ h)
      rintro negative rfl
      exact hfinite negative hv
  · obtain ⟨v, hv, hz⟩ := kindOf_eq_ok_iff.mp hz
    obtain ⟨w, hw, h⟩ := noPayload_of_payloadOf hpayload
    exact .payload hv hz hw h

/-- An entry has a defect exactly when it stands for no attribute, unless its kind is infinite. -/
theorem exists_defect_iff
    (hfinite : ∀ negative, entry.get? "kind" ≠ some (.real (.infinite negative))) :
    (∃ failure errorClass, Defect entry failure errorClass) ↔ ¬ ∃ a, Denotes entry a := by
  simp only [← attributeOf_eq_ok_iff_denotes]
  constructor
  · rintro ⟨failure, errorClass, h⟩ ⟨a, ha⟩
    cases ha.symm.trans h.attributeOf_eq
  · intro hnot
    cases h : attributeOf entry with
    | ok a => exact absurd ⟨a, h⟩ hnot
    | error failure => exact ⟨_, _, defect_of_attributeOf hfinite h⟩

end Entry

theorem exists_converts {entries : List Json} (h : ∀ entry ∈ entries, ∃ a, Denotes entry a) :
    ∃ attributes, Converts entries attributes := by
  induction entries with
  | nil => exact ⟨[], .nil⟩
  | cons entry rest ih =>
    obtain ⟨a, ha⟩ := h entry List.mem_cons_self
    obtain ⟨attributes, hrest⟩ := ih fun e he => h e (List.mem_cons_of_mem entry he)
    exact ⟨a :: attributes, .cons (attributeOf_eq_ok_iff_denotes.mpr ha) hrest⟩

/-! ### Frames -/

section Build

variable {type : Int} {entries : List Json}

/-- Building answers with what is wrong with an entry, where those before it can be converted. -/
theorem buildFrame_of_firstFailure {entry : Json} {failure : Failure}
    (h : FirstFailure entries entry failure) (hreported : Reported [.key, .type, .value] failure) :
    buildFrame type (.list entries) = .ok (.report failure.errorClass failure.message) := by
  refine reporting_eq_report (bind_eq_error_iff.mpr (.inl ?_)) hreported
  exact attributesOf_eq_error_iff.mpr (.inr ⟨entries, entriesOf_list entries, entry, h⟩)

/-- Building answers with what is wrong with a packet, where all entries can be converted. -/
theorem buildFrame_of_fault {attributes : List Attribute} {fault : Fault}
    (h : Converts entries attributes) (hfault : Packet.encode { type, attributes } = .error fault) :
    buildFrame type (.list entries) = .ok (.report fault.errorClass fault.message) := by
  have hconverts : attributesOf (.list entries) = .ok attributes :=
    attributesOf_eq_ok_iff.mpr ⟨entries, entriesOf_list entries, h⟩
  refine reporting_eq_report ?_ (reported_fault fault)
  refine bind_eq_error_iff.mpr (.inr ⟨attributes, hconverts, bind_eq_error_iff.mpr (.inl ?_)⟩)
  exact ofCodec_eq_error_iff.mpr ⟨fault, hfault, rfl⟩

end Build

/-- **What building a frame answers.** An entry either stands for an attribute or has a defect,
unless its kind is infinite. If one has a defect, the answer is a report on that of the first such
entry, whatever the type and whatever the kinds before it. If all stand for attributes, the answer
is what encoding the packet of these comes to: the bytes of the frame and how many there are, or a
report on its fault. -/
theorem buildFrame_answer (type : Int) (entries : List Json) :
    (∀ entry : Json, (∀ negative, entry.get? "kind" ≠ some (.real (.infinite negative))) →
      ((∃ failure errorClass, Defect entry failure errorClass) ↔ ¬ ∃ a, Denotes entry a)) ∧
    (∀ before entry after failure errorClass, entries = before ++ entry :: after →
      (∀ earlier ∈ before, ∃ a, Denotes earlier a) → Defect entry failure errorClass →
      (buildFrame type (.list entries)).map (Answer.toJson BuiltFrame.toJson) =
        .ok (.object
          [("error", .string failure.message), ("error_type", .string errorClass.name)])) ∧
    ∀ attributes, List.Forall₂ Denotes entries attributes →
      (∀ frame, Packet.encode { type, attributes } = .ok frame →
        (buildFrame type (.list entries)).map (Answer.toJson BuiltFrame.toJson) =
          .ok (.object
            [("frame", .ofChars (Hex.spaced frame)), ("length", .int frame.length)])) ∧
      ∀ fault, Packet.encode { type, attributes } = .error fault →
        (buildFrame type (.list entries)).map (Answer.toJson BuiltFrame.toJson) =
          .ok (.object [("error", .string fault.message),
            ("error_type", .string fault.errorClass.name)]) := by
  refine ⟨fun _ => exists_defect_iff, ?_, ?_⟩
  · rintro before entry after failure errorClass rfl hbefore hdefect
    obtain rfl := hdefect.errorClass_eq
    have hfirst : FirstFailure (before ++ entry :: after) entry failure :=
      ⟨⟨before, after, rfl, exists_converts hbefore⟩, hdefect.attributeOf_eq⟩
    rw [buildFrame_of_firstFailure hfirst hdefect.reported]
    rfl
  · intro attributes hdenotes
    have hconverts : Converts entries attributes :=
      hdenotes.imp fun _ _ => attributeOf_eq_ok_iff_denotes.mpr
    constructor
    · intro frame hframe
      rw [buildFrame_eq_result_iff.mpr ⟨attributes, frame,
        attributesOf_eq_ok_iff.mpr ⟨entries, entriesOf_list entries, hconverts⟩, hframe, rfl⟩]
      rfl
    · intro fault hfault
      rw [buildFrame_of_fault hconverts hfault]
      rfl

/-- A type and a kind that are out of range are reported only where every entry can be converted:
of two entries that cannot be, the first one is reported before them, and by its kind. A type of
4301 digits is out of range too, and the report on it does not name it. -/
theorem buildFrame_answer_entries_first :
    ((buildFrame (-1) (.list [.object [("kind", .int 300)],
        .object [("payload", .string "zz"), ("kind", .list [])], .object []])).map
          (Answer.toJson BuiltFrame.toJson) =
      .ok (.object
        [("error", .string ("int() argument must be a string, a bytes-like object or a real " ++
            "number, not \x27list\x27")), ("error_type", .string "TypeError")])) ∧
    ((buildFrame (-1) (.list [.object [("kind", .int 300)]])).map
          (Answer.toJson BuiltFrame.toJson) =
      .ok (.object [("error", .string "Packet type must be 0-65535, got -1"),
        ("error_type", .string "ValueError")])) ∧
    ((buildFrame (10 ^ 4300) (.list [.object [("kind", .int 300)]])).map
          (Answer.toJson BuiltFrame.toJson) =
      .ok (.object
        [("error", .string ("Exceeds the limit (4300 digits) for integer string conversion; " ++
            "use sys.set_int_max_str_digits() to increase the limit")),
         ("error_type", .string "ValueError")])) ∧
    (buildFrame 1 (.list [.object [("payload", .string " aA"), ("kind", .string " 4")]])).map
          (Answer.toJson BuiltFrame.toJson) =
      .ok (.object
        [("frame", .string "00 01 00 03 04 01 aa 5e 70 94 6c"), ("length", .int 11)]) := by
  have hkind : Denotes (.object [("kind", .int 300)]) { kind := 300 } :=
    ⟨⟨_, rfl, rfl⟩, .inl ⟨rfl, rfl⟩⟩
  have hrejected (type : Int) (htype : ¬ (0 ≤ type ∧ type ≤ 65535)) :
      Packet.encode { type, attributes := [{ kind := 300 }] } = .error (.typeOutOfRange type) :=
    Packet.encode_of_violation (.type htype)
  refine ⟨?_, ?_, ?_, ?_⟩
  · obtain ⟨-, h, -⟩ := buildFrame_answer (-1) [.object [("kind", .int 300)],
      .object [("payload", .string "zz"), ("kind", .list [])], .object []]
    refine h [_] _ [_] (.kindShape .list) .type rfl ?_ ?_
    · rintro earlier hearlier
      rw [List.mem_singleton] at hearlier
      exact ⟨_, hearlier ▸ hkind⟩
    · exact .kind rfl (.shape (.inr (.inl rfl)))
  · obtain ⟨-, -, h⟩ := buildFrame_answer (-1) [.object [("kind", .int 300)]]
    have hmessage : (Fault.typeOutOfRange (-1)).message =
        "Packet type must be 0-65535, got -1" := by
      decide +kernel
    rw [(h _ (.cons hkind .nil)).2 _ (hrejected (-1) (by decide)), hmessage]
    rfl
  · obtain ⟨-, -, h⟩ := buildFrame_answer (10 ^ 4300) [.object [("kind", .int 300)]]
    have hlarge : ¬ (0 ≤ (10 ^ 4300 : Int) ∧ (10 ^ 4300 : Int) ≤ 65535) :=
      fun h => Int.not_le.mpr (lt_ten_pow (j := 5) (by decide) (by omega)) h.2
    have hmessage : (Fault.typeOutOfRange (10 ^ 4300)).message = Numeral.limitText "" :=
      (Fault.naming_eq _ _ _).trans (if_neg (not_natAbs_ten_pow_lt 4300))
    rw [(h _ (.cons hkind .nil)).2 _ (hrejected _ hlarge), hmessage, Numeral.limitText_empty]
    rfl
  · obtain ⟨-, -, h⟩ := buildFrame_answer 1
      [.object [("payload", .string " aA"), ("kind", .string " 4")]]
    have hentry : Denotes (.object [("payload", .string " aA"), ("kind", .string " 4")])
        { kind := 4, payload := [170] } :=
      attributeOf_eq_ok_iff_denotes.mp (by decide +kernel)
    exact (h _ (.cons hentry .nil)).1 [0, 1, 0, 3, 4, 1, 170, 94, 112, 148, 108]
      (by decide +kernel)

end Workbench

end TunerWire

import TunerWire.Proofs.Conversion
import TunerWire.Proofs.HexText
import TunerWire.Proofs.Refusal
import TunerWire.Workbench.Report

/-!
# Answers of the tools

A tool reports the failures of some classes and is ended by the others. Three of the tools always
answer: what can go wrong in them is a value error throughout. Building a frame is ended by one
thing only, an entry whose kind is infinite, where all entries before it can be converted
(`buildFrame_eq_error_iff`): that is an overflow, and building reports keys, types and values.
Every other failure of building is reported.
-/

namespace TunerWire

namespace Workbench

open Text

/-! ### Reporting -/

/-- A failure of a class that is reported. -/
def Reported (classes : List ErrorClass) (failure : Failure) : Prop :=
  classes.any failure.errorClass.isA = true

variable {α : Type} {classes : List ErrorClass} {outcome : Except Failure α} {failure : Failure}

theorem reporting_eq_error_iff :
    reporting classes outcome = .error failure ↔
      outcome = .error failure ∧ ¬ Reported classes failure := by
  rw [Reported, Bool.not_eq_true]
  cases outcome with
  | ok value =>
    constructor
    · intro h
      cases h
    · rintro ⟨h, -⟩
      cases h
  | error failure' =>
    simp only [reporting]
    split
    · next hreported =>
      constructor
      · intro h
        cases h
      · rintro ⟨h, hnot⟩
        obtain rfl := Except.error.inj h
        rw [hreported] at hnot
        cases hnot
    · next hnot =>
      rw [Bool.not_eq_true] at hnot
      constructor
      · intro h
        obtain rfl := Except.error.inj h
        exact ⟨rfl, hnot⟩
      · rintro ⟨h, -⟩
        obtain rfl := Except.error.inj h
        rfl

/-- A tool whose failures are all reported answers. -/
theorem exists_answer (h : ∀ failure, outcome = .error failure → Reported classes failure) :
    ∃ answer, reporting classes outcome = .ok answer := by
  cases hanswer : reporting classes outcome with
  | ok answer => exact ⟨answer, rfl⟩
  | error failure =>
    obtain ⟨houtcome, hnot⟩ := reporting_eq_error_iff.mp hanswer
    exact absurd (h failure houtcome) hnot

theorem reporting_eq_result_iff {value : α} :
    reporting classes outcome = .ok (.result value) ↔ outcome = .ok value := by
  cases outcome with
  | ok value' =>
    constructor <;>
    · intro h
      cases h
      rfl
  | error failure =>
    simp only [reporting]
    constructor
    · intro h
      split at h <;> cases h
    · intro h
      cases h

theorem reporting_eq_report (h : outcome = .error failure) (hreported : Reported classes failure) :
    reporting classes outcome = .ok (.report failure.errorClass failure.message) := by
  rw [h]
  exact if_pos hreported

theorem ofCodec_eq_ok_iff {x : Except Fault α} {value : α} :
    ofCodec x = .ok value ↔ x = .ok value :=
  mapError_eq_ok_iff

theorem ofCodec_eq_error_iff {x : Except Fault α} :
    ofCodec x = .error failure ↔ ∃ fault, x = .error fault ∧ .fault fault = failure :=
  mapError_eq_error_iff

theorem bytesOf_eq_ok_iff {text : String} {bytes : Bytes} :
    bytesOf text = .ok bytes ↔ Hex.Spells text.toList bytes :=
  mapError_eq_ok_iff.trans Hex.read_eq_ok_iff

theorem hexText_of_bytesOf {text : String} (h : bytesOf text = .error failure) :
    ∃ position, failure = .hexText position := by
  obtain ⟨position, -, rfl⟩ := mapError_eq_error_iff.mp h
  exact ⟨position, rfl⟩

/-! ### What is reported -/

/-- A fault of a length is a value error, whether or not the length can be written. -/
theorem reported_of_classNaming {fault : Fault} {length : Int}
    (h : fault.errorClass = Fault.classNaming length .lengthEncoding) (hvalue : .value ∈ classes) :
    Reported classes (.fault fault) := by
  refine List.any_eq_true.mpr ⟨.value, hvalue, ?_⟩
  rw [Failure.errorClass, h, Fault.classNaming]
  split <;> rfl

theorem reported_fault (fault : Fault) : Reported [.key, .type, .value] (.fault fault) := by
  cases fault with
  | lengthNegative length | lengthTooLarge length => exact reported_of_classNaming rfl (by decide)
  | _ => rfl

theorem reported_of_decode {frame : Bytes} {fault : Fault}
    (h : Packet.decode frame = .error fault) :
    Reported [.value] (.fault fault) := by
  rw [Reported, Failure.errorClass]
  rcases Packet.errorClass_of_decode h with hclass | hclass
  all_goals
    rw [hclass]
    rfl

/-- What is wrong with a number is reported, unless the number is infinite. -/
theorem reported_of_integerOf {v : Json} (h : integerOf v = .error failure) :
    Reported [.key, .type, .value] failure ∨
      failure = .kindInfinite ∧ ∃ negative, v = .real (.infinite negative) := by
  unfold integerOf at h
  split at h
  case h_4 negative => exact .inr ⟨(Except.error.inj h).symm, negative, rfl⟩
  case h_6 =>
    split at h
    · cases h
    all_goals
      cases h
      exact .inl rfl
  all_goals
    cases h
    try exact .inl rfl

theorem reported_of_payloadOf {entry : Json} (h : payloadOf entry = .error failure) :
    Reported [.key, .type, .value] failure := by
  unfold payloadOf at h
  split at h
  · cases h
  · obtain ⟨position, rfl⟩ := hexText_of_bytesOf h
    rfl
  · cases h
    rfl

/-- An entry with an infinite kind. -/
def InfiniteKind (entry : Json) : Prop :=
  ∃ members negative, entry = .object members ∧
    Json.lookup "kind" members = some (.real (.infinite negative))

theorem reported_of_kindOf {entry : Json} (h : kindOf entry = .error failure) :
    Reported [.key, .type, .value] failure ∨ failure = .kindInfinite ∧ InfiniteKind entry := by
  unfold kindOf at h
  split at h
  · next members =>
    split at h
    · next v hlookup =>
      rcases reported_of_integerOf h with hreported | ⟨hfailure, negative, rfl⟩
      · exact .inl hreported
      · exact .inr ⟨hfailure, members, negative, rfl, hlookup⟩
    · cases h
      exact .inl rfl
  · cases h
    exact .inl rfl

theorem reported_of_attributeOf {entry : Json} (h : attributeOf entry = .error failure) :
    Reported [.key, .type, .value] failure ∨ failure = .kindInfinite ∧ InfiniteKind entry := by
  rcases attributeOf_eq_error_iff.mp h with hkind | ⟨-, hpayload⟩
  · exact reported_of_kindOf hkind
  · exact .inl (reported_of_payloadOf hpayload)

theorem InfiniteKind.attributeOf_eq {entry : Json} (h : InfiniteKind entry) :
    attributeOf entry = .error .kindInfinite := by
  obtain ⟨members, negative, rfl, hlookup⟩ := h
  apply attributeOf_eq_error_iff.mpr
  left
  simp only [kindOf, hlookup, integerOf]

theorem reported_of_entriesOf {v : Json} (h : entriesOf v = .error failure) :
    Reported [.key, .type, .value] failure := by
  unfold entriesOf at h
  split at h
  · cases h
  split at h
  all_goals
    cases h
    try rfl

/-! ### The tools -/

/-- The conversion of the entries comes to one with an infinite kind: all before it can be
converted. -/
def StopsAtInfinity (v : Json) : Prop :=
  ∃ before entry after attributes, entriesOf v = .ok (before ++ entry :: after) ∧
    Converts before attributes ∧ InfiniteKind entry

/-- Building a frame is ended by an infinite kind, and by nothing else. -/
theorem buildFrame_eq_error_iff {type : Int} {v : Json} :
    buildFrame type v = .error failure ↔ failure = .kindInfinite ∧ StopsAtInfinity v := by
  rw [buildFrame, reporting_eq_error_iff, bind_eq_error_iff]
  constructor
  · rintro ⟨h | ⟨attributes, -, h⟩, hnot⟩
    · rcases attributesOf_eq_error_iff.mp h with h | ⟨entries, hentries, entry, hsplit, hfails⟩
      · exact absurd (reported_of_entriesOf h) hnot
      obtain ⟨before, after, rfl, attributes, hbefore⟩ := hsplit
      rcases reported_of_attributeOf hfails with hreported | ⟨rfl, hinfinite⟩
      · exact absurd hreported hnot
      · exact ⟨rfl, before, entry, after, attributes, hentries, hbefore, hinfinite⟩
    · rcases bind_eq_error_iff.mp h with h | ⟨frame, -, h⟩
      · obtain ⟨fault, -, rfl⟩ := ofCodec_eq_error_iff.mp h
        exact absurd (reported_fault fault) hnot
      · cases h
  · rintro ⟨rfl, before, entry, after, attributes, hentries, hbefore, hinfinite⟩
    refine ⟨.inl (attributesOf_eq_error_iff.mpr (.inr ⟨_, hentries, entry, ?_, ?_⟩)), ?_⟩
    · exact ⟨before, after, rfl, attributes, hbefore⟩
    · exact hinfinite.attributeOf_eq
    · rw [Reported]
      decide

theorem exists_parseFrame (text : String) : ∃ answer, parseFrame text = .ok answer := by
  apply exists_answer
  intro failure h
  rcases bind_eq_error_iff.mp h with h | ⟨frame, -, h⟩
  · obtain ⟨position, rfl⟩ := hexText_of_bytesOf h
    rfl
  rcases bind_eq_error_iff.mp h with h | ⟨packet, -, h⟩
  · obtain ⟨fault, hfault, rfl⟩ := ofCodec_eq_error_iff.mp h
    exact reported_of_decode hfault
  · cases h

theorem exists_encodeTagLength (length : Int) :
    ∃ answer, encodeTagLength length = .ok answer := by
  apply exists_answer
  intro failure h
  rcases bind_eq_error_iff.mp h with h | ⟨written, -, h⟩
  · obtain ⟨fault, hfault, rfl⟩ := ofCodec_eq_error_iff.mp h
    have hsize := (TagLength.write_eq_error_iff rfl rfl).mp hfault
    rcases TagLength.size_eq_error_iff.mp hsize with ⟨-, rfl⟩ | ⟨-, rfl⟩
    all_goals exact reported_of_classNaming rfl (by decide)
  · cases h

theorem exists_decodeTagLength (text : String) : ∃ answer, decodeTagLength text = .ok answer := by
  apply exists_answer
  intro failure h
  rcases bind_eq_error_iff.mp h with h | ⟨window, -, h⟩
  · obtain ⟨position, rfl⟩ := hexText_of_bytesOf h
    rfl
  · obtain ⟨fault, hfault, rfl⟩ := ofCodec_eq_error_iff.mp h
    unfold TagLength.read at hfault
    split at hfault
    · split at hfault <;> cases hfault
    · cases hfault
      rfl

/-! ### The shape of an answer -/

/-- The names of the members of an object. -/
def memberNames : Json → List String
  | .object members => members.map Prod.fst
  | _ => []

/-- The answer is an object with the members of a result, or with those of a report. -/
def Answer.IsObject (f : α → Json) (members : List String) (answer : Answer α) : Prop :=
  memberNames (answer.toJson f) = members ∨
    memberNames (answer.toJson f) = ["error", "error_type"]

theorem Answer.isObject (answer : Answer α) (f : α → Json) {members : List String}
    (hf : ∀ value, memberNames (f value) = members) : answer.IsObject f members := by
  cases answer with
  | result value => exact .inl (hf value)
  | report errorClass message => exact .inr rfl

/-- **What the tools answer.** Building a frame answers unless the conversion of its entries comes
to one whose kind is infinite: then the overflow ends it. The other three tools answer whatever they
are given. An answer is an object with the members of a result, or with those of a report. -/
theorem tools_answer (type : Int) (v : Json) (frame window : String) (length : Int) :
    ((∃ answer, buildFrame type v = .ok answer ∧
        answer.IsObject BuiltFrame.toJson ["frame", "length"]) ↔ ¬ StopsAtInfinity v) ∧
    (∃ answer, parseFrame frame = .ok answer ∧
      answer.IsObject ParsedFrame.toJson ["type", "attributes", "checksum", "length"]) ∧
    (∃ answer, encodeTagLength length = .ok answer ∧
      answer.IsObject EncodedLength.toJson ["bytes", "consumed"]) ∧
    ∃ answer, decodeTagLength window = .ok answer ∧
      answer.IsObject readingToJson ["length", "consumed"] := by
  refine ⟨?_, ?_, ?_, ?_⟩
  · constructor
    · rintro ⟨answer, hanswer, -⟩ hstops
      rw [buildFrame_eq_error_iff.mpr ⟨rfl, hstops⟩] at hanswer
      cases hanswer
    · intro hnot
      cases hanswer : buildFrame type v with
      | error failure => exact absurd (buildFrame_eq_error_iff.mp hanswer).2 hnot
      | ok answer => exact ⟨answer, rfl, answer.isObject BuiltFrame.toJson fun _ => rfl⟩
  · obtain ⟨answer, hanswer⟩ := exists_parseFrame frame
    exact ⟨answer, hanswer, answer.isObject ParsedFrame.toJson fun _ => rfl⟩
  · obtain ⟨answer, hanswer⟩ := exists_encodeTagLength length
    exact ⟨answer, hanswer, answer.isObject EncodedLength.toJson fun _ => rfl⟩
  · obtain ⟨answer, hanswer⟩ := exists_decodeTagLength window
    exact ⟨answer, hanswer, answer.isObject readingToJson fun _ => rfl⟩

/-- A kind of `1e400` is infinite, and no answer comes of it. -/
theorem buildFrame_infinite_kind :
    buildFrame 1 (.list [.object [("kind", .real (Double.ofDecimal false 1 400))]]) =
      .error .kindInfinite := by
  have hinfinite : Double.ofDecimal false 1 400 = .infinite false := by decide +kernel
  rw [hinfinite]
  rfl

end Workbench

end TunerWire

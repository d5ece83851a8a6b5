import TunerWire.Proofs.Answers
import TunerWire.Proofs.RoundTrip

/-!
# Building and taking apart

The tools pass packets on as text. A frame is built with spaces between its bytes and is taken
apart whatever the blanks and the case of its digits; payloads are handed out without spaces and
taken in again as entries. So what is built can be taken apart, and what was taken apart can be
built again. Only overlong lengths do not come back: the frame that is built again has them
in their shortest form.

Each tool has one lemma that says when it has a result and which one (`buildFrame_eq_result_iff`,
`parseFrame_eq_result_iff`), and an attribute that was handed out is an entry that stands for it
(`attributeOf_toJson`).
-/

namespace TunerWire

open Text

namespace Workbench

/-! ### Results -/

theorem buildFrame_eq_result_iff {type : Int} {v : Json} {built : BuiltFrame} :
    buildFrame type v = .ok (.result built) ↔
      ∃ attributes frame, attributesOf v = .ok attributes ∧
        Packet.encode { type, attributes } = .ok frame ∧
        built = { text := Hex.spaced frame, length := frame.length } := by
  rw [buildFrame, reporting_eq_result_iff]
  constructor
  · intro h
    obtain ⟨attributes, hattributes, h⟩ := bind_eq_ok_iff.mp h
    obtain ⟨frame, hframe, h⟩ := bind_eq_ok_iff.mp h
    exact ⟨attributes, frame, hattributes, ofCodec_eq_ok_iff.mp hframe, (Except.ok.inj h).symm⟩
  · rintro ⟨attributes, frame, hattributes, hframe, rfl⟩
    refine bind_eq_ok_iff.mpr ⟨attributes, hattributes, ?_⟩
    exact bind_eq_ok_iff.mpr ⟨frame, ofCodec_eq_ok_iff.mpr hframe, rfl⟩

/-- What is said of a frame and its packet when it is taken apart. -/
def ParsedFrame.of (frame : Bytes) (packet : Packet) : ParsedFrame :=
  { packet, checksum := Hex.plain (frame.drop (frame.length - Frame.checksumSize)),
    length := frame.length }

theorem parseFrame_eq_result_iff {text : String} {parsed : ParsedFrame} :
    parseFrame text = .ok (.result parsed) ↔
      ∃ frame packet, Hex.Spells text.toList frame ∧ Packet.decode frame = .ok packet ∧
        parsed = .of frame packet := by
  rw [parseFrame, reporting_eq_result_iff]
  constructor
  · intro h
    obtain ⟨frame, hframe, h⟩ := bind_eq_ok_iff.mp h
    obtain ⟨packet, hpacket, h⟩ := bind_eq_ok_iff.mp h
    exact ⟨frame, packet, bytesOf_eq_ok_iff.mp hframe, ofCodec_eq_ok_iff.mp hpacket,
      (Except.ok.inj h).symm⟩
  · rintro ⟨frame, packet, hframe, hpacket, rfl⟩
    refine bind_eq_ok_iff.mpr ⟨frame, bytesOf_eq_ok_iff.mpr hframe, ?_⟩
    exact bind_eq_ok_iff.mpr ⟨packet, ofCodec_eq_ok_iff.mpr hpacket, rfl⟩

theorem parseFrame_spaced {frame : Bytes} {packet : Packet} (h : Packet.decode frame = .ok packet) :
    parseFrame (String.ofList (Hex.spaced frame)) = .ok (.result (.of frame packet)) := by
  refine parseFrame_eq_result_iff.mpr ⟨frame, packet, ?_, h, rfl⟩
  rw [String.toList_ofList]
  exact Hex.spells_spaced frame

/-! ### Attributes as entries -/

/-- An attribute that is handed out is an entry that stands for it. -/
theorem attributeOf_toJson (a : Attribute) : attributeOf a.toJson = .ok a := by
  apply attributeOf_eq_ok_iff.mpr
  refine ⟨rfl, ?_⟩
  have hpayload : a.toJson.get? "payload" = some (.ofChars (Hex.plain a.payload)) := rfl
  simp only [payloadOf, hpayload, Json.ofChars]
  rw [bytesOf_eq_ok_iff, String.toList_ofList]
  exact Hex.spells_plain a.payload

theorem converts_toJson (attributes : List Attribute) :
    Converts (attributes.map Attribute.toJson) attributes := by
  induction attributes with
  | nil => exact .nil
  | cons a rest ih => exact .cons (attributeOf_toJson a) ih

theorem attributesOf_toJson (attributes : List Attribute) :
    attributesOf (.list (attributes.map Attribute.toJson)) = .ok attributes :=
  attributesOf_eq_ok_iff.mpr ⟨_, entriesOf_list _, converts_toJson attributes⟩

/-! ### There and back -/

/-- **Building and taking apart undo each other.** The text of a frame that is built is taken apart
into the type, one attribute for each entry with its kind and payload, the bytes of the checksum,
and the same length. A text that can be taken apart can be built again from what was said of it;
the result says the same packet, and it spells the same bytes exactly when the text had no overlong
length. -/
theorem build_and_parse :
    (∀ type entries built, buildFrame type (.list entries) = .ok (.result built) →
      ∃ (frame : Bytes) (attributes : List Attribute) (parsed : ParsedFrame),
        Hex.Spells built.text frame ∧
        List.Forall₂ (fun entry a => kindOf entry = .ok a.kind ∧ payloadOf entry = .ok a.payload)
          entries attributes ∧
        parseFrame (String.ofList built.text) = .ok (.result parsed) ∧
        parsed.toJson = .object
          [("type", .int type),
           ("attributes", .list (attributes.map fun a =>
             .object [("kind", .int a.kind), ("payload", .ofChars (Hex.plain a.payload))])),
           ("checksum", .ofChars (Hex.plain (frame.drop (frame.length - 4)))),
           ("length", .int built.length)]) ∧
    ∀ text parsed, parseFrame text = .ok (.result parsed) →
      ∃ type attributes built again frame forms,
        parsed.toJson.get? "type" = some (.int type) ∧
        parsed.toJson.get? "attributes" = some attributes ∧
        buildFrame type attributes = .ok (.result built) ∧
        parseFrame (String.ofList built.text) = .ok (.result again) ∧
        again.packet = parsed.packet ∧
        Hex.Spells text.toList frame ∧ Frame.Spells frame parsed.packet forms ∧
        (Hex.Spells built.text frame ↔
          Frame.overlongCount (forms.zip parsed.packet.attributes) = 0) := by
  constructor
  · intro type entries built h
    obtain ⟨attributes, frame, hattributes, hencode, rfl⟩ := buildFrame_eq_result_iff.mp h
    obtain ⟨entries', hentries, hconverts⟩ := attributesOf_eq_ok_iff.mp hattributes
    obtain rfl : entries = entries' := Except.ok.inj ((entriesOf_list entries).symm.trans hentries)
    have hdecode := Packet.decode_of_spells (Packet.encode_eq_ok_iff.mp hencode)
    refine ⟨frame, attributes, _, Hex.spells_spaced frame, ?_, parseFrame_spaced hdecode, rfl⟩
    exact hconverts.imp fun _ _ => attributeOf_eq_ok_iff.mp
  · intro text parsed h
    obtain ⟨frame, packet, hframe, hdecode, rfl⟩ := parseFrame_eq_result_iff.mp h
    obtain ⟨forms, hforms⟩ := Packet.exists_spells_of_decode hdecode
    obtain ⟨shortest, hshortest, hlength, hsame⟩ := hforms.exists_least
    have hbuild : buildFrame packet.type (.list (packet.attributes.map Attribute.toJson)) =
        .ok (.result { text := Hex.spaced shortest, length := shortest.length }) :=
      buildFrame_eq_result_iff.mpr ⟨packet.attributes, shortest, attributesOf_toJson _,
        Packet.encode_eq_ok_iff.mpr hshortest, rfl⟩
    refine ⟨packet.type, _, _, _, frame, forms, rfl, rfl, hbuild,
      parseFrame_spaced (Packet.decode_of_spells hshortest), rfl, hframe, hforms, ?_⟩
    constructor
    · intro hspells
      have heq := hspells.unique (Hex.spells_spaced shortest)
      rw [heq] at hlength
      exact Nat.left_eq_add.mp hlength
    · intro hcount
      rw [hsame hcount]
      exact Hex.spells_spaced shortest

/-- A payload in upper case and a kind that is a string are built and taken apart. A frame with an
overlong length and scattered blanks is taken apart and built again, and is one byte shorter. -/
theorem build_and_parse_overlong :
    (buildFrame 1 (.list [.object [("kind", .int 3), ("payload", .string "AA")],
        .object [("kind", .string "4")]]) =
        .ok (.result { text := "00 01 00 05 03 01 aa 04 00 84 85 f1 35".toList, length := 13 }) ∧
      ∃ parsed, parseFrame "00 01 00 05 03 01 aa 04 00 84 85 f1 35" = .ok (.result parsed) ∧
        parsed.toJson.get? "type" = some (.int 1) ∧
        parsed.toJson.get? "length" = some (.int 13)) ∧
    parseFrame "0001 0006 038100AA\n0400 31bfb02d" =
        .ok (.result
          { packet := { type := 1, attributes := [{ kind := 3, payload := [170] }, { kind := 4 }] }
            checksum := "31bfb02d".toList, length := 14 }) ∧
      ∃ built again, buildFrame 1 (.list
          ([{ kind := 3, payload := [170] }, { kind := 4 }].map Attribute.toJson)) =
            .ok (.result built) ∧
        parseFrame (String.ofList built.text) = .ok (.result again) ∧
        again.packet =
          { type := 1, attributes := [{ kind := 3, payload := [170] }, { kind := 4 }] } ∧
        built.length = 13 := by
  have hbuild : buildFrame 1 (.list [.object [("kind", .int 3), ("payload", .string "AA")],
      .object [("kind", .string "4")]]) =
      .ok (.result { text := "00 01 00 05 03 01 aa 04 00 84 85 f1 35".toList, length := 13 }) := by
    decide +kernel
  have hparse : parseFrame "0001 0006 038100AA\n0400 31bfb02d" =
      .ok (.result
        { packet := { type := 1, attributes := [{ kind := 3, payload := [170] }, { kind := 4 }] }
          checksum := "31bfb02d".toList, length := 14 }) := by
    decide +kernel
  refine ⟨⟨hbuild, ?_⟩, hparse, ?_⟩
  · obtain ⟨frame, attributes, parsed, -, -, hparsed, hjson⟩ := build_and_parse.1 _ _ _ hbuild
    rw [String.ofList_toList] at hparsed
    refine ⟨parsed, hparsed, ?_, ?_⟩
    all_goals
      rw [hjson]
      rfl
  · obtain ⟨type, attributes, built, again, frame, forms, htype, hattributes, hbuilt, hagain,
      hpacket, -⟩ := build_and_parse.2 _ _ hparse
    obtain rfl : 1 = type := Json.int.inj (Option.some.inj htype)
    obtain rfl := Option.some.inj hattributes
    have hlength : buildFrame 1 (.list
        ([{ kind := 3, payload := [170] }, { kind := 4 }].map Attribute.toJson)) =
        .ok (.result
          { text := "00 01 00 05 03 01 aa 04 00 84 85 f1 35".toList, length := 13 }) := by
      decide +kernel
    obtain rfl := Answer.result.inj (Except.ok.inj (hlength.symm.trans hbuilt))
    exact ⟨_, again, hbuilt, hagain, hpacket, rfl⟩

end Workbench

end TunerWire

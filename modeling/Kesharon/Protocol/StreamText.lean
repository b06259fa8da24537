import Kesharon.Framework.JsonBytes
import Kesharon.Protocol.Codec

namespace Kesharon.Protocol

open Framework

variable {α : Type}

/-- The bytes at which `from_slice` may find an array or an object: a blank, a bracket, a brace. -/
def structureStarts : List UInt8 := [0x20,0x09,0x0a,0x0d,0x5b,0x7b]

/-- `from_slice` for a type whose values are objects. -/
def SerdeJson.ReadsObjects (json : SerdeJson α) : Prop :=
  ∀ bytes v, json.fromSlice bytes = .ok v → ∃ b rest, bytes = b :: rest ∧ b ∈ structureStarts

/-- The first byte of the text of an object. -/
theorem structureStarts_of_object {bytes : List UInt8} {s : String} {fields : List (String × Json)}
    (text : String.fromUTF8? bytes.toByteArray = some s)
    (parsed : Json.parse s.toList = some (.object fields)) :
    ∃ b rest, bytes = b :: rest ∧ b ∈ structureStarts := by
  obtain ⟨c, more, split, opens⟩ := Json.parse_object parsed
  have written : utf8 (String.ofList ([c] ++ more)) = bytes := by
    rw [List.singleton_append, ← split, String.ofList_toList]
    exact utf8_of_fromUTF8? text
  have ascii : ∀ d ∈ [c], d.toNat ≤ 0x7f := by
    intro d among
    rw [List.mem_singleton.mp among]
    exact Json.ascii_of_opensObject opens
  rw [Json.utf8_ascii ascii] at written
  refine ⟨_, _, written.symm, ?_⟩
  simp only [Json.opensObject, Json.isBlank, Bool.or_eq_true, decide_eq_true_eq] at opens
  rcases opens with (rfl | rfl | rfl | rfl) | rfl <;> decide

theorem StreamMessage.object_of_ofJson {x : Json} {m : StreamMessage}
    (h : StreamMessage.ofJson? x = some m) : ∃ fields, x = .object fields := by
  obtain ⟨fields, object, _⟩ := Option.bind_eq_some_iff.mp h
  cases x with
  | object fields => exact ⟨fields, rfl⟩
  | _ => cases object

theorem serdeJson_readsObjects : (serdeJson StreamMessage).ReadsObjects := by
  intro bytes m read
  simp only [serdeJson] at read
  cases text : String.fromUTF8? bytes.toByteArray with
  | none => simp [text] at read
  | some s =>
    cases value : (Json.parse s.toList).bind (@Serde.deserialize StreamMessage _) with
    | none => simp [text, value] at read
    | some v =>
      obtain ⟨x, parsed, decoded⟩ := Option.bind_eq_some_iff.mp value
      obtain ⟨fields, rfl⟩ := StreamMessage.object_of_ofJson decoded
      exact structureStarts_of_object text parsed

theorem ofTexts_readsObjects [DecidableEq α] {texts : List (α × String)}
    (objects : ∀ text ∈ texts, ∃ b rest, utf8 text.2 = b :: rest ∧ b ∈ structureStarts) :
    (SerdeJson.ofTexts texts).ReadsObjects := by
  intro bytes v read
  unfold SerdeJson.ofTexts at read
  dsimp only at read
  split at read
  · rename_i text found
    have same := List.find?_some found
    rw [← of_decide_eq_true same]
    exact objects text (List.mem_of_find?_eq_some found)
  · cases read

/-- A payload whose bytes cannot be taken for a length, and none of whose first tails begins like
an object. -/
structure Unmistakable (payload : List UInt8) : Prop where
  graphic : ∀ b ∈ payload, 0x20 ≤ b.toNat
  opening : ∃ rest, payload = [0x7b,0x22,0x6d,0x65] ++ rest

instance (payload : List UInt8) : Decidable (Unmistakable payload) :=
  decidable_of_iff ((payload.all fun b => decide (0x20 ≤ b.toNat)) = true ∧
      [0x7b,0x22,0x6d,0x65] <+: payload)
    ⟨fun h => ⟨fun b among => of_decide_eq_true (List.all_eq_true.mp h.1 b among),
        h.2.imp fun _ same => same.symm⟩,
      fun h => ⟨List.all_eq_true.mpr fun b among => decide_eq_true (h.graphic b among),
        h.opening.imp fun _ same => same.symm⟩⟩

/-- So are the payloads of stream messages. -/
theorem unmistakable_text (m : StreamMessage) :
    Unmistakable (utf8 (Serde.serialize m).text) := by
  have plain := LawfulSerde.plain m
  refine ⟨(Json.compact_graphic _ plain).bytes, ?_⟩
  have tagged : ∃ more, Json.compact (Serde.serialize m) =
      ['\x7b','\x22','m','e'] ++ more := by
    cases m with
    | snapshot s => exact ⟨_, rfl⟩
    | event e => exact ⟨_, rfl⟩
  have ascii : ∀ c ∈ ['\x7b','\x22','m','e'], c.toNat ≤ 0x7f := by
    intro c among
    simp only [List.mem_cons, List.not_mem_nil, or_false] at among
    rcases among with rfl | rfl | rfl | rfl <;> decide
  obtain ⟨more, split⟩ := tagged
  refine ⟨utf8 (String.ofList more), ?_⟩
  rw [Json.text, split, Json.utf8_ascii ascii]
  rfl

/-- Four bytes, the first of which is graphic, are no length of a frame. -/
theorem declared_of_graphic {b : UInt8} {rest : List UInt8} (graphic : 0x20 ≤ b.toNat)
    (long : 3 ≤ rest.length) : MAX_FRAME_BYTES < fromBeBytes ((b :: rest).take 4) := by
  have three : (rest.take 3).length = 3 := by
    rw [List.length_take]
    omega
  have small : MAX_FRAME_BYTES < 0x20 * 256 ^ 3 := by decide
  have large : 0x20 * 256 ^ 3 ≤ b.toNat * 256 ^ 3 := Nat.mul_le_mul_right _ graphic
  rw [List.take_succ_cons, fromBeBytes, three]
  omega

end Kesharon.Protocol

import Kesharon.Framework.BigEndian
import Kesharon.Framework.Text
import Kesharon.Protocol.Message
import Mathlib.Tactic.SplitIfs

namespace Kesharon.Protocol

open Framework

/-- `serde_json::to_vec` and `serde_json::from_slice` for one type, with the texts of their
errors. -/
structure SerdeJson (α : Type) where
  toVec : α → Except String (List UInt8)
  fromSlice : List UInt8 → Except String α

variable {α : Type}

/-- JSON of which a few values and their texts are known. -/
def SerdeJson.ofTexts [DecidableEq α] (texts : List (α × String)) : SerdeJson α where
  toVec value :=
    match texts.find? fun text => text.1 = value with
    | some text => .ok (utf8 text.2)
    | none => .error "unknown value"
  fromSlice bytes :=
    match texts.find? fun text => utf8 text.2 = bytes with
    | some text => .ok text.1
    | none => .error "expected value at line 1 column 1"

/-- A payload behind its length. -/
def frameOf (payload : List UInt8) : List UInt8 := toBeBytes 4 payload.length ++ payload

def encodeFrame (json : SerdeJson α) (message : α) : Except ProtocolError (List UInt8) :=
  match json.toVec message with
  | .error e => .error (.malformedJson e)
  | .ok payload =>
    if MAX_FRAME_BYTES < payload.length then
      .error (.frameTooLarge payload.length MAX_FRAME_BYTES)
    else .ok (frameOf payload)

/-- The payload of a frame that can be sent. -/
structure Frame where
  payload : List UInt8
  fits : payload.length ≤ MAX_FRAME_BYTES
  deriving DecidableEq, Repr

/-- `encode_frame`, with its frame taken apart. -/
def Frame.encode (json : SerdeJson α) (message : α) : Except ProtocolError Frame :=
  match json.toVec message with
  | .error e => .error (.malformedJson e)
  | .ok payload =>
    if fits : payload.length ≤ MAX_FRAME_BYTES then .ok ⟨payload,fits⟩
    else .error (.frameTooLarge payload.length MAX_FRAME_BYTES)

theorem encodeFrame_eq (json : SerdeJson α) (message : α) :
    encodeFrame json message = (Frame.encode json message).map fun frame => frameOf frame.payload := by
  unfold encodeFrame Frame.encode
  cases json.toVec message with
  | error e => rfl
  | ok payload =>
    by_cases fits : payload.length ≤ MAX_FRAME_BYTES
    · simp [fits, Except.map, Nat.not_lt.mpr fits]
    · simp [fits, Except.map, Nat.not_le.mp fits]

def decodeFrame (json : SerdeJson α) (frame : List UInt8) : Except ProtocolError α :=
  if frame.length < 4 then .error .incompleteLengthPrefix
  else
    let declared := fromBeBytes (frame.take 4)
    if MAX_FRAME_BYTES < declared then .error (.frameTooLarge declared MAX_FRAME_BYTES)
    else
      let actual := frame.length - 4
      if actual ≠ declared then .error (.frameLengthMismatch declared actual)
      else (json.fromSlice (frame.drop 4)).mapError .malformedJson

def decodeClientRequestFrame (json : SerdeJson ClientRequest) (frame : List UInt8) :
    Except ProtocolError ClientRequest := do
  let request ← decodeFrame json frame
  if request.protocolVersion ≠ PROTOCOL_VERSION then
    .error (.unsupportedVersion request.protocolVersion)
  else if request.method.requiresIdempotencyKey ∧
      (request.idempotencyKey = none ∨ request.idempotencyKey = some "") then
    .error .missingIdempotencyKey
  else .ok request

def decodeServerResponseFrame (json : SerdeJson ServerResponse) (frame : List UInt8) :
    Except ProtocolError ServerResponse := do
  let response ← decodeFrame json frame
  if response.protocolVersion ≠ PROTOCOL_VERSION then
    .error (.unsupportedVersion response.protocolVersion)
  else if response.result.isSome = response.error.isSome then .error .invalidResponseShape
  else .ok response

/-- The checks a decoded stream message has to pass. -/
def checkStreamMessage : StreamMessage → Except ProtocolError StreamMessage
  | .snapshot snapshot => .ok (.snapshot snapshot)
  | .event event =>
    if event.protocolVersion ≠ PROTOCOL_VERSION then
      .error (.unsupportedVersion event.protocolVersion)
    else if event.sequence = 0 then .error .invalidEventSequence
    else .ok (.event event)

def decodeStreamMessageFrame (json : SerdeJson StreamMessage) (frame : List UInt8) :
    Except ProtocolError StreamMessage := do
  let message ← decodeFrame json frame
  checkStreamMessage message

theorem frameOf_length (payload : List UInt8) : (frameOf payload).length = payload.length + 4 := by
  simp [frameOf]
  omega

/-- The length of a payload that fits is read back. -/
theorem declared_of_fits {payload : List UInt8} (fits : payload.length ≤ MAX_FRAME_BYTES) :
    fromBeBytes (toBeBytes 4 payload.length) = payload.length := by
  have small : MAX_FRAME_BYTES < 256 ^ 4 := by decide
  exact fromBeBytes_toBeBytes (by omega)

/-- A frame that was built is taken apart again. -/
theorem decodeFrame_frameOf (json : SerdeJson α) {payload : List UInt8}
    (fits : payload.length ≤ MAX_FRAME_BYTES) :
    decodeFrame json (frameOf payload) = (json.fromSlice payload).mapError .malformedJson := by
  have front : (frameOf payload).take 4 = toBeBytes 4 payload.length := by
    rw [frameOf, List.take_left' (toBeBytes_length _ _)]
  have back : (frameOf payload).drop 4 = payload := by
    rw [frameOf, List.drop_left' (toBeBytes_length _ _)]
  unfold decodeFrame
  rw [frameOf_length, front, back, declared_of_fits fits]
  rw [if_neg (by omega), if_neg (by omega), if_neg (by omega)]

/-- A byte array that is taken apart is as long as it says. -/
theorem decodeFrame_ok {json : SerdeJson α} {frame : List UInt8} {message : α}
    (h : decodeFrame json frame = .ok message) :
    4 ≤ frame.length ∧ fromBeBytes (frame.take 4) = frame.length - 4 ∧
      frame.length - 4 ≤ MAX_FRAME_BYTES ∧ json.fromSlice (frame.drop 4) = .ok message := by
  unfold decodeFrame at h
  dsimp only at h
  by_cases short : frame.length < 4
  · simp [short] at h
  · rw [if_neg short] at h
    by_cases large : MAX_FRAME_BYTES < fromBeBytes (frame.take 4)
    · simp [large] at h
    · rw [if_neg large] at h
      by_cases other : frame.length - 4 ≠ fromBeBytes (frame.take 4)
      · simp [other] at h
      · rw [if_neg other] at h
        have same := not_not.mp other
        refine ⟨by omega, same.symm, by omega, ?_⟩
        cases parsed : json.fromSlice (frame.drop 4) with
        | error e => simp [parsed, Except.mapError] at h
        | ok value =>
          rw [parsed] at h
          rw [Except.ok.inj h]

/-- The rules that a decoded request keeps. -/
theorem decodeClientRequestFrame_ok {json : SerdeJson ClientRequest} {frame : List UInt8}
    {request : ClientRequest} :
    decodeClientRequestFrame json frame = .ok request ↔
      decodeFrame json frame = .ok request ∧ request.protocolVersion = PROTOCOL_VERSION ∧
        ¬ (request.method.requiresIdempotencyKey ∧
          (request.idempotencyKey = none ∨ request.idempotencyKey = some "")) := by
  unfold decodeClientRequestFrame
  cases decoded : decodeFrame json frame with
  | error e => simp [bind, Except.bind]
  | ok value =>
    simp only [bind, Except.bind, Except.ok.injEq]
    by_cases version : value.protocolVersion ≠ PROTOCOL_VERSION
    · rw [if_pos version]
      constructor
      · exact nofun
      · rintro ⟨rfl, same, _⟩
        exact absurd same version
    · rw [if_neg version]
      split_ifs with keyless
      · constructor
        · exact nofun
        · rintro ⟨rfl, _, keyed⟩
          exact absurd keyless keyed
      · rw [Except.ok.injEq]
        exact ⟨fun same => same ▸ ⟨rfl, not_not.mp version, keyless⟩, fun h => h.1⟩

end Kesharon.Protocol

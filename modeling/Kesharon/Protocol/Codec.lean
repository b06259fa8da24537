import Kesharon.Protocol.Frame
import Kesharon.Protocol.Serde

namespace Kesharon.Protocol

open Framework

variable {α : Type}

/-- `to_vec` writes the compact text of what is serialised, and `from_slice` reads a compact text
as `Deserialize` reads the value behind it. -/
structure SerdeJson.Lawful [Serde α] (json : SerdeJson α) : Prop where
  toVec : ∀ v, json.toVec v = .ok (utf8 (serialize v).text)
  fromSlice : ∀ (x : Json) v, x.plain = true → x.depth ≤ Json.maxDepth → deserialize x = some v →
    json.fromSlice (utf8 x.text) = .ok v

/-- The JSON of the reader and the printer. -/
def serdeJson (α : Type) [Serde α] : SerdeJson α where
  toVec v := .ok (utf8 (serialize v).text)
  fromSlice bytes :=
    match String.fromUTF8? bytes.toByteArray with
    | none => .error "invalid unicode code point"
    | some s =>
      match (Json.parse s.toList).bind deserialize with
      | none => .error "invalid value"
      | some v => .ok v

theorem serdeJson_lawful [Serde α] : (serdeJson α).Lawful where
  toVec _ := rfl
  fromSlice x v plain deep read := by
    have parsed : Json.parse x.text.toList = some x := by
      rw [Json.text, String.toList_ofList]
      exact Json.parse_compact plain deep
    simp only [serdeJson, fromUTF8?_utf8, parsed, Option.bind_some, read]

/-- The JSON of a value fits in a frame. -/
def Fits [Serde α] (v : α) : Prop := (utf8 (serialize v).text).length ≤ MAX_FRAME_BYTES

instance [Serde α] (v : α) : Decidable (Fits v) := inferInstanceAs (Decidable (_ ≤ _))

/-- A byte array that is as long as it says. -/
def WellFramed (bytes : List UInt8) : Prop :=
  4 ≤ bytes.length ∧ fromBeBytes (bytes.take 4) = bytes.length - 4 ∧
    bytes.length - 4 ≤ MAX_FRAME_BYTES

theorem wellFramed_append {length payload : List UInt8} (four : length.length = 4)
    (fits : fromBeBytes length ≤ MAX_FRAME_BYTES) (all : payload.length = fromBeBytes length) :
    WellFramed (length ++ payload) := by
  unfold WellFramed
  rw [List.take_left' four, List.length_append]
  exact ⟨by omega, by omega, by omega⟩

/-- The decoder finds nothing wrong with the length of such a byte array. -/
theorem decodeFrame_wellFramed (json : SerdeJson α) {frame : List UInt8} (framed : WellFramed frame) :
    decodeFrame json frame = (json.fromSlice (frame.drop 4)).mapError .malformedJson := by
  obtain ⟨prefixed, size, fits⟩ := framed
  unfold decodeFrame
  rw [if_neg (by omega)]
  dsimp only
  rw [if_neg (by omega), if_neg (by omega)]

theorem frameOf_wellFramed {payload : List UInt8} (fits : payload.length ≤ MAX_FRAME_BYTES) :
    WellFramed (frameOf payload) := by
  have declared := declared_of_fits fits
  exact wellFramed_append (toBeBytes_length _ _) (declared.symm ▸ fits) declared.symm

section Frames

variable [Serde α] {json : SerdeJson α} (lawful : json.Lawful)

include lawful in
theorem encodeFrame_lawful (v : α) :
    encodeFrame json v =
      if Fits v then .ok (frameOf (utf8 (serialize v).text))
      else .error (.frameTooLarge (utf8 (serialize v).text).length MAX_FRAME_BYTES) := by
  unfold encodeFrame
  rw [lawful.toVec]
  by_cases fits : Fits v
  · rw [if_pos fits]
    exact if_neg (Nat.not_lt.mpr fits)
  · rw [if_neg fits]
    exact if_pos (Nat.not_le.mp fits)

include lawful in
theorem encodeFrame_ok {v : α} {frame : List UInt8} (h : encodeFrame json v = .ok frame) :
    Fits v ∧ frame = frameOf (utf8 (serialize v).text) := by
  rw [encodeFrame_lawful lawful] at h
  split_ifs at h with fits
  exact ⟨fits, (Except.ok.inj h).symm⟩

include lawful in
theorem encode_of_fits {v : α} (fits : Fits v) : ∃ frame, Frame.encode json v = .ok frame := by
  have encoded := (encodeFrame_lawful lawful v).trans (if_pos fits)
  rw [encodeFrame_eq] at encoded
  cases made : Frame.encode json v with
  | ok frame => exact ⟨frame, rfl⟩
  | error e => simp [made, Except.map] at encoded

include lawful in
/-- What is framed is taken out of its frame again. -/
theorem decodeFrame_encoded [LawfulSerde α] (shallow : LawfulSerde.levels α ≤ Json.maxDepth)
    {v : α} (fits : Fits v) :
    decodeFrame json (frameOf (utf8 (serialize v).text)) = .ok v := by
  rw [decodeFrame_frameOf json fits,
    lawful.fromSlice (serialize v) v (LawfulSerde.plain v)
      (LawfulSerde.depth_le_of shallow v) (LawfulSerde.deserialize_serialize v)]
  rfl

end Frames

theorem ClientRequest.new_eq (r : ClientRequest) :
    ClientRequest.new r.requestId r.method r.idempotencyKey = .ok r ↔
      r.protocolVersion = PROTOCOL_VERSION ∧ ¬ (r.method.requiresIdempotencyKey ∧
        (r.idempotencyKey = none ∨ r.idempotencyKey = some "")) := by
  obtain ⟨version, requestId, method, key⟩ := r
  unfold ClientRequest.new
  split_ifs with keyless
  · exact ⟨nofun, fun h => absurd keyless h.2⟩
  · simp only [Except.ok.injEq, ClientRequest.mk.injEq, and_true]
    exact ⟨fun same => ⟨same.symm, keyless⟩, fun h => h.1.symm⟩

theorem DaemonEvent.new_eq (e : DaemonEvent) :
    DaemonEvent.new e.streamId e.sequence e.payload = .ok e ↔
      e.protocolVersion = PROTOCOL_VERSION ∧ e.sequence ≠ 0 := by
  obtain ⟨version, streamId, sequence, payload⟩ := e
  unfold DaemonEvent.new
  split_ifs with zero
  · exact ⟨nofun, fun h => absurd zero h.2⟩
  · simp only [Except.ok.injEq, DaemonEvent.mk.injEq, and_true]
    exact ⟨fun same => ⟨same.symm, zero⟩, fun h => h.1.symm⟩

/-- Requests of the constructor. -/
def ClientRequest.Built (r : ClientRequest) : Prop :=
  ∃ requestId method key, ClientRequest.new requestId method key = .ok r

theorem ClientRequest.built_iff (r : ClientRequest) :
    r.Built ↔ r.protocolVersion = PROTOCOL_VERSION ∧ ¬ (r.method.requiresIdempotencyKey ∧
      (r.idempotencyKey = none ∨ r.idempotencyKey = some "")) := by
  rw [← ClientRequest.new_eq]
  constructor
  · rintro ⟨requestId, method, key, new⟩
    have parts := new
    unfold ClientRequest.new at parts
    split_ifs at parts
    obtain rfl := Except.ok.inj parts
    exact new
  · exact fun new => ⟨_, _, _, new⟩

/-- Responses of the constructors. -/
inductive ServerResponse.Built : ServerResponse → Prop where
  | success (requestId : String) (result : ResponsePayload) : Built (.success requestId result)
  | failure (requestId : String) (code : ErrorCode) (message : String) :
      Built (.failure requestId code message)
  | withRequestId {r : ServerResponse} (built : Built r) (requestId : String) :
      Built (r.withRequestId requestId)

theorem ServerResponse.built_iff (r : ServerResponse) :
    r.Built ↔ r.protocolVersion = PROTOCOL_VERSION ∧ r.result.isSome ≠ r.error.isSome := by
  constructor
  · intro built
    induction built with
    | success | failure => exact ⟨rfl, nofun⟩
    | withRequestId _ _ ih => exact ih
  · rintro ⟨version, one⟩
    obtain ⟨v, requestId, result, error⟩ := r
    cases version
    cases result with
    | some result =>
      cases error with
      | none => exact .success requestId result
      | some error => exact absurd rfl one
    | none =>
      cases error with
      | none => exact absurd rfl one
      | some error => exact .failure requestId error.code error.message

/-- Messages of the constructors. -/
inductive StreamMessage.Built : StreamMessage → Prop where
  | snapshot (snapshot : WorkspaceSnapshot) : Built (.snapshot snapshot)
  | event {streamId : String} {sequence : UInt64} {payload : DaemonEventPayload}
      {event : DaemonEvent} (new : DaemonEvent.new streamId sequence payload = .ok event) :
      Built (.event event)

theorem decodeServerResponseFrame_ok {json : SerdeJson ServerResponse} {frame : List UInt8}
    {r : ServerResponse} :
    decodeServerResponseFrame json frame = .ok r ↔ decodeFrame json frame = .ok r ∧ r.Built := by
  rw [ServerResponse.built_iff]
  unfold decodeServerResponseFrame
  cases decoded : decodeFrame json frame with
  | error e => simp [bind, Except.bind]
  | ok value =>
    simp only [bind, Except.bind, Except.ok.injEq]
    split_ifs with version shape
    · refine ⟨nofun, ?_⟩
      rintro ⟨rfl, same, _⟩
      exact absurd same version
    · refine ⟨nofun, ?_⟩
      rintro ⟨rfl, _, one⟩
      exact absurd shape one
    · rw [Except.ok.injEq]
      exact ⟨fun same => same ▸ ⟨rfl, not_not.mp version, shape⟩, fun h => h.1⟩

theorem checkStreamMessage_ok {m m' : StreamMessage} :
    checkStreamMessage m = .ok m' ↔ m = m' ∧ m.Built := by
  cases m with
  | snapshot s =>
    simp only [checkStreamMessage, Except.ok.injEq]
    exact ⟨fun same => ⟨same, .snapshot s⟩, fun h => h.1⟩
  | event e =>
    have rules : (StreamMessage.event e).Built ↔
        e.protocolVersion = PROTOCOL_VERSION ∧ e.sequence ≠ 0 := by
      constructor
      · intro built
        cases built with
        | event new =>
          unfold DaemonEvent.new at new
          split_ifs at new with zero
          obtain rfl := Except.ok.inj new
          exact ⟨rfl, zero⟩
      · exact fun h => .event ((DaemonEvent.new_eq e).mpr h)
    rw [rules]
    unfold checkStreamMessage
    dsimp only
    split_ifs with version zero
    · exact ⟨(fun h => by cases h), fun h => absurd h.2.1 version⟩
    · exact ⟨(fun h => by cases h), fun h => absurd zero h.2.2⟩
    · rw [Except.ok.injEq]
      exact ⟨fun same => ⟨same, not_not.mp version, zero⟩, fun h => h.1⟩

theorem decodeStreamMessageFrame_ok {json : SerdeJson StreamMessage} {frame : List UInt8}
    {m : StreamMessage} :
    decodeStreamMessageFrame json frame = .ok m ↔ decodeFrame json frame = .ok m ∧ m.Built := by
  unfold decodeStreamMessageFrame
  cases decoded : decodeFrame json frame with
  | error e => simp [bind, Except.bind]
  | ok value =>
    change checkStreamMessage value = _ ↔ _
    rw [checkStreamMessage_ok, Except.ok.injEq]
    exact ⟨fun h => h.1 ▸ h, fun h => h.1 ▸ h⟩

/-- A decoder of frames that inverts `encode_frame` on what the constructors build, and accepts
nothing else. -/
structure Inverts [Serde α] (json : SerdeJson α)
    (decode : List UInt8 → Except ProtocolError α) (Built : α → Prop) : Prop where
  encodes : ∀ v, Fits v → ∃ frame, encodeFrame json v = .ok frame
  decodes : ∀ v frame, Built v → encodeFrame json v = .ok frame → decode frame = .ok v
  accepts : ∀ bytes v, decode bytes = .ok v → WellFramed bytes ∧ Built v
  again : ∀ bytes v frame, decode bytes = .ok v → encodeFrame json v = .ok frame →
    decode frame = .ok v

theorem inverts_of [Serde α] [LawfulSerde α] {json : SerdeJson α}
    {decode : List UInt8 → Except ProtocolError α} {Built : α → Prop} (lawful : json.Lawful)
    (shallow : LawfulSerde.levels α ≤ Json.maxDepth)
    (decode_ok : ∀ bytes v, decode bytes = .ok v ↔ decodeFrame json bytes = .ok v ∧ Built v) :
    Inverts json decode Built := by
  have decodes : ∀ v frame, Built v → encodeFrame json v = .ok frame → decode frame = .ok v := by
    intro v frame built encoded
    obtain ⟨fits, rfl⟩ := encodeFrame_ok lawful encoded
    exact (decode_ok _ v).mpr ⟨decodeFrame_encoded lawful shallow fits, built⟩
  refine ⟨?_, decodes, ?_, ?_⟩
  · intro v fits
    exact ⟨_, (encodeFrame_lawful lawful v).trans (if_pos fits)⟩
  · intro bytes v decoded
    obtain ⟨framed, built⟩ := (decode_ok bytes v).mp decoded
    obtain ⟨long, declared, small, _⟩ := decodeFrame_ok framed
    exact ⟨⟨long, declared, small⟩, built⟩
  · intro bytes v frame decoded encoded
    exact decodes v frame ((decode_ok bytes v).mp decoded).2 encoded

/-- Each of the three decoders inverts `encode_frame`, accepts only frames of values that keep the
rules of their constructors, and gives a mutating request a key. -/
theorem wire_codec {requests : SerdeJson ClientRequest} {responses : SerdeJson ServerResponse}
    {messages : SerdeJson StreamMessage} (lawful₁ : requests.Lawful) (lawful₂ : responses.Lawful)
    (lawful₃ : messages.Lawful) :
    Inverts requests (decodeClientRequestFrame requests) ClientRequest.Built ∧
      Inverts responses (decodeServerResponseFrame responses) ServerResponse.Built ∧
      Inverts messages (decodeStreamMessageFrame messages) StreamMessage.Built ∧
      ∀ bytes r, decodeClientRequestFrame requests bytes = .ok r →
        (∃ path, r.method = .openProject path) ∨ (∃ target, r.method = .cancelRequest target) →
        ∃ key, r.idempotencyKey = some key ∧ key ≠ "" := by
  refine ⟨inverts_of lawful₁ (by decide) ?_, inverts_of lawful₂ (by decide) ?_,
    inverts_of lawful₃ (by decide) ?_, ?_⟩
  · intro bytes r
    rw [decodeClientRequestFrame_ok, ClientRequest.built_iff]
  · intro bytes r
    exact decodeServerResponseFrame_ok
  · intro bytes m
    exact decodeStreamMessageFrame_ok
  · intro bytes r decoded mutates
    obtain ⟨_, _, keyed⟩ := decodeClientRequestFrame_ok.mp decoded
    have required : r.method.requiresIdempotencyKey = true := by
      rcases mutates with ⟨path, method⟩ | ⟨target, method⟩ <;> rw [method] <;> rfl
    cases present : r.idempotencyKey with
    | none => exact absurd ⟨required, .inl present⟩ keyed
    | some key =>
      refine ⟨key, rfl, ?_⟩
      rintro rfl
      exact keyed ⟨required, .inr present⟩

/-- A request with every kind of character that is escaped. -/
theorem wire_codec_open :
    ∃ frame, encodeFrame (serdeJson ClientRequest)
        ⟨PROTOCOL_VERSION,"r\n",.openProject "C:\\p",some "k\x01"⟩ = .ok frame ∧
      decodeClientRequestFrame (serdeJson ClientRequest) frame =
        .ok ⟨PROTOCOL_VERSION,"r\n",.openProject "C:\\p",some "k\x01"⟩ := by
  obtain ⟨inverts, _⟩ :=
    wire_codec (serdeJson_lawful (α := ClientRequest)) (serdeJson_lawful (α := ServerResponse))
      (serdeJson_lawful (α := StreamMessage))
  obtain ⟨frame, encoded⟩ := inverts.encodes
    ⟨PROTOCOL_VERSION,"r\n",.openProject "C:\\p",some "k\x01"⟩ (by decide +kernel)
  exact ⟨frame, encoded, inverts.decodes _ frame
    ⟨"r\n", .openProject "C:\\p", some "k\x01", rfl⟩ encoded⟩

end Kesharon.Protocol

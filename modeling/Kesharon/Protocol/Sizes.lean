import Kesharon.Framework.JsonSize
import Kesharon.Protocol.Codec

namespace Kesharon.Protocol

open Framework Framework.Json Framework.Serde

/-- The bytes of the JSON of a value. -/
def jsonSize {α : Type} [Serde α] (v : α) : Nat := (serialize v).size

theorem fits_iff {α : Type} [Serde α] (v : α) : Fits v ↔ jsonSize v ≤ MAX_FRAME_BYTES := by
  unfold Fits jsonSize
  rw [length_text]

section Messages

/-- The names of fields and variants, in their quotes. -/
theorem textSize_names :
    textSize "protocolVersion" = 17 ∧ textSize "requestId" = 11 ∧ textSize "result" = 8 ∧
      textSize "error" = 7 ∧ textSize "code" = 6 ∧ textSize "message" = 9 ∧ textSize "type" = 6 ∧
      textSize "projectOpened" = 15 ∧ textSize "project" = 9 ∧ textSize "cancellation" = 14 ∧
      textSize "targetRequestId" = 17 ∧ textSize "outcome" = 9 ∧ textSize "subscriptionReady" = 19 ∧
      textSize "streamId" = 10 ∧ textSize "messageType" = 13 ∧ textSize "event" = 7 ∧
      textSize "sequence" = 10 ∧ textSize "payload" = 9 ∧ textSize "operationStarted" = 18 ∧
      textSize "kind" = 6 ∧ textSize "operationCancelled" = 20 ∧ textSize "operationFailed" = 17 ∧
      textSize "status" = 8 ∧ textSize "snapshot" = 10 ∧ textSize "lastSequence" = 14 ∧
      textSize "activeOperations" = 18 ∧ textSize "method" = 8 ∧ textSize "idempotencyKey" = 16 ∧
      textSize "cancelRequest" = 15 := by
  decide

theorem size_text (s : String) : (serialize s).size = textSize s := rfl

@[simp] theorem jsonSize_text (s : String) : jsonSize s = textSize s := rfl

@[simp] theorem jsonSize_none {α : Type} [Serde α] : jsonSize (none : Option α) = 4 := size_null

@[simp] theorem jsonSize_some {α : Type} [Serde α] (v : α) : jsonSize (some v) = jsonSize v := rfl

theorem jsonSize_version : jsonSize PROTOCOL_VERSION = 1 := by decide

/-- A `u64` has at most 20 digits. -/
theorem jsonSize_sequence (n : UInt64) : jsonSize n ≤ 20 := by
  have bound := n.toNat_lt
  change width (Nat.toDigits 10 n.toNat) ≤ 20
  rw [width_toDigits, Nat.length_toDigits_le_iff (by omega) (by omega)]
  exact Nat.lt_of_lt_of_le bound (by decide)

/-- What a response takes without its request id. -/
def ServerResponse.bodySize (r : ServerResponse) : Nat :=
  jsonSize r.protocolVersion + jsonSize r.result + jsonSize r.error + 52

theorem jsonSize_response (r : ServerResponse) :
    jsonSize r = textSize r.requestId + r.bodySize := by
  change r.toJson.size = _
  simp only [ServerResponse.toJson, size_object, fieldsSize, ServerResponse.bodySize, jsonSize,
    textSize_names, size_text]
  omega

theorem bodySize_success (requestId : String) (result : ResponsePayload) :
    (ServerResponse.success requestId result).bodySize = jsonSize result + 57 := by
  simp only [ServerResponse.bodySize, ServerResponse.success, jsonSize_version, jsonSize_some,
    jsonSize_none]
  omega

theorem jsonSize_error (e : ErrorPayload) :
    jsonSize e = jsonSize e.code + textSize e.message + 20 := by
  change e.toJson.size = _
  simp only [ErrorPayload.toJson, size_object, fieldsSize, jsonSize, textSize_names, size_text]
  omega

theorem bodySize_failure (requestId : String) (code : ErrorCode) (message : String) :
    (ServerResponse.failure requestId code message).bodySize =
      jsonSize code + textSize message + 77 := by
  simp only [ServerResponse.bodySize, ServerResponse.failure, jsonSize_version, jsonSize_some,
    jsonSize_none, jsonSize_error]
  omega

theorem jsonSize_projectOpened (p : ProjectSnapshot) :
    jsonSize (ResponsePayload.projectOpened p) = jsonSize p + 35 := by
  change (ResponsePayload.projectOpened p).toJson.size = _
  simp only [ResponsePayload.toJson, size_object, fieldsSize, jsonSize, size_string, textSize_names]
  omega

theorem jsonSize_outcome (o : CancellationOutcome) : jsonSize o ≤ 17 := by
  cases o <;> decide

theorem jsonSize_cancellation (target : String) (o : CancellationOutcome) :
    jsonSize (ResponsePayload.cancellation target o) = textSize target + jsonSize o + 53 := by
  change (ResponsePayload.cancellation target o).toJson.size = _
  simp only [ResponsePayload.toJson, size_object, fieldsSize, jsonSize, size_string,
    textSize_names, size_text]
  omega

theorem jsonSize_subscriptionReady (streamId : String) :
    jsonSize (ResponsePayload.subscriptionReady streamId) = textSize streamId + 40 := by
  change (ResponsePayload.subscriptionReady streamId).toJson.size = _
  simp only [ResponsePayload.toJson, size_object, fieldsSize, size_string,
    textSize_names, size_text]
  omega

theorem jsonSize_event (e : DaemonEvent) :
    jsonSize (StreamMessage.event e) = jsonSize e.protocolVersion + textSize e.streamId +
      jsonSize e.sequence + jsonSize e.payload + 87 := by
  have inner : (serialize e).size = (serialize e.protocolVersion).size + textSize e.streamId +
      (serialize e.sequence).size + (serialize e.payload).size + 55 := by
    change e.toJson.size = _
    simp only [DaemonEvent.toJson, size_object, fieldsSize, textSize_names, size_text]
    omega
  change (StreamMessage.event e).toJson.size = _
  simp only [StreamMessage.toJson, size_object, fieldsSize, jsonSize, size_string, textSize_names,
    inner]
  omega

theorem jsonSize_started (requestId : String) :
    jsonSize (DaemonEventPayload.operationStarted requestId .openProject) =
      textSize requestId + 61 := by
  have kind : (serialize OperationKind.openProject).size = 13 := by decide
  change (DaemonEventPayload.operationStarted requestId .openProject).toJson.size = _
  simp only [DaemonEventPayload.toJson, size_object, fieldsSize, size_string, textSize_names,
    kind, size_text]
  omega

theorem jsonSize_opened (requestId : String) (p : ProjectSnapshot) :
    jsonSize (DaemonEventPayload.projectOpened requestId p) =
      textSize requestId + jsonSize p + 48 := by
  change (DaemonEventPayload.projectOpened requestId p).toJson.size = _
  simp only [DaemonEventPayload.toJson, size_object, fieldsSize, size_string, textSize_names,
    size_text, jsonSize]
  omega

theorem jsonSize_cancelled (requestId : String) :
    jsonSize (DaemonEventPayload.operationCancelled requestId) = textSize requestId + 42 := by
  change (DaemonEventPayload.operationCancelled requestId).toJson.size = _
  simp only [DaemonEventPayload.toJson, size_object, fieldsSize, size_string, textSize_names,
    size_text]
  omega

theorem jsonSize_failed (requestId : String) (code : ErrorCode) (message : String) :
    jsonSize (DaemonEventPayload.operationFailed requestId code message) =
      textSize requestId + jsonSize code + textSize message + 58 := by
  change (DaemonEventPayload.operationFailed requestId code message).toJson.size = _
  simp only [DaemonEventPayload.toJson, size_object, fieldsSize, size_string, textSize_names,
    size_text, jsonSize]
  omega

theorem jsonSize_operation (requestId : String) :
    jsonSize (⟨requestId,.openProject,.running⟩ : OperationSnapshot) = textSize requestId + 54 := by
  have kind : (serialize OperationKind.openProject).size = 13 := by decide
  have status : (serialize OperationStatus.running).size = 9 := by decide
  change (OperationSnapshot.toJson _).size = _
  simp only [OperationSnapshot.toJson, size_object, fieldsSize, textSize_names, kind, status,
    size_text]
  omega

/-- The JSON of operations that are running, with commas between them. -/
theorem jsonSize_operations (ids : List String) :
    jsonSize (ids.map fun requestId => (⟨requestId,.openProject,.running⟩ : OperationSnapshot)) =
      (ids.map fun requestId => textSize requestId + 55).sum + (if ids = [] then 2 else 1) := by
  have items : itemsSize ((ids.map fun requestId =>
      (⟨requestId,.openProject,.running⟩ : OperationSnapshot)).map serialize) =
      (ids.map fun requestId => textSize requestId + 55).sum := by
    induction ids with
    | nil => rfl
    | cons r ids ih =>
      have one := jsonSize_operation r
      unfold jsonSize at one
      simp only [List.map_cons, itemsSize, List.sum_cons, ih, one]
  cases ids with
  | nil => rfl
  | cons r ids =>
    rw [← items]
    exact size_array _ _

theorem jsonSize_snapshot (s : WorkspaceSnapshot) :
    jsonSize (StreamMessage.snapshot s) = textSize s.streamId + jsonSize s.lastSequence +
      jsonSize s.project + jsonSize s.activeOperations + 98 := by
  have inner : (serialize s).size = textSize s.streamId + (serialize s.lastSequence).size +
      (serialize s.project).size + (serialize s.activeOperations).size + 60 := by
    change s.toJson.size = _
    simp only [WorkspaceSnapshot.toJson, size_object, fieldsSize, textSize_names, size_text]
    omega
  change (StreamMessage.snapshot s).toJson.size = _
  simp only [StreamMessage.toJson, size_object, fieldsSize, jsonSize, size_string, textSize_names,
    inner]
  omega

end Messages

section Requests

/-- The strings of a method, which its answers may repeat. -/
def RequestMethod.echo : RequestMethod → Nat
  | .openProject path => textSize path
  | .cancelRequest targetRequestId => textSize targetRequestId
  | .health | .subscribeEvents => 0

def ClientRequest.echo (r : ClientRequest) : Nat := textSize r.requestId + r.method.echo

/-- No text of a request is shorter than the strings in it. -/
def SerdeJson.Frugal (json : SerdeJson ClientRequest) : Prop :=
  ∀ bytes r, json.fromSlice bytes = .ok r → r.echo ≤ bytes.length

theorem echo_le_of_frame {json : SerdeJson ClientRequest} (frugal : json.Frugal)
    {frame : List UInt8} {r : ClientRequest} (decoded : decodeClientRequestFrame json frame = .ok r) :
    r.echo + 4 ≤ frame.length := by
  obtain ⟨framed, _⟩ := decodeClientRequestFrame_ok.mp decoded
  obtain ⟨long, _, _, read⟩ := decodeFrame_ok framed
  have short := frugal _ r read
  rw [List.length_drop] at short
  omega

/-- The bytes of the values of a field. -/
def namedSize (fields : List (String × Json)) (name : String) : Nat :=
  ((fields.filter fun field => field.1 = name).map fun field => field.2.size).sum

theorem namedSize_cons (f : String × Json) (fields : List (String × Json)) (name : String) :
    namedSize (f :: fields) name = (if f.1 = name then f.2.size else 0) + namedSize fields name := by
  unfold namedSize
  by_cases same : f.1 = name <;> simp [same]

theorem namedSize_le (fields : List (String × Json)) (name : String) :
    namedSize fields name ≤ fieldsSize fields := by
  induction fields with
  | nil => exact Nat.le_refl 0
  | cons f fields ih =>
    rw [namedSize_cons]
    simp only [fieldsSize]
    split_ifs <;> omega

/-- The values of two fields lie next to each other. -/
theorem namedSize_add_le {name other : String} (differ : name ≠ other)
    (fields : List (String × Json)) :
    namedSize fields name + namedSize fields other ≤ fieldsSize fields := by
  induction fields with
  | nil => exact Nat.le_refl 0
  | cons f fields ih =>
    rw [namedSize_cons, namedSize_cons]
    simp only [fieldsSize]
    split_ifs with one two
    · exact absurd (one.symm.trans two) differ
    all_goals omega

theorem namedSize_of_required {α : Type} [Serde α] {fields : List (String × Json)} {name : String}
    {v : α} (h : requiredField fields name = some v) :
    ∃ x, deserialize x = some v ∧ namedSize fields name = x.size := by
  unfold requiredField field? at h
  unfold namedSize
  cases named : fields.filter fun field => field.1 = name with
  | nil => simp [named] at h
  | cons f rest =>
    cases rest with
    | nil =>
      simp only [named] at h
      exact ⟨f.2, h, by simp⟩
    | cons g rest => simp [named] at h

theorem deserialize_text {x : Json} {s : String} (h : deserialize x = some s) :
    x.size = textSize s := by
  cases x with
  | string t =>
    obtain rfl : t = s := Option.some.inj h
    rfl
  | _ => exact nomatch h

theorem size_of_structure {x : Json} {fields : List (String × Json)}
    (h : structure? x = some fields) : fieldsSize fields ≤ x.size := by
  cases x with
  | object fs =>
    obtain rfl : fs = fields := Option.some.inj h
    cases fs with
    | nil => exact Nat.zero_le _
    | cons f fs =>
      rw [size_object]
      omega
  | _ => cases h

theorem echo_le_of_method {x : Json} {m : RequestMethod} (h : deserialize x = some m) :
    m.echo ≤ x.size := by
  change RequestMethod.ofJson? x = some m at h
  simp only [RequestMethod.ofJson?, bind, Option.bind_eq_some_iff] at h
  obtain ⟨fields, object, tag, _, h⟩ := h
  have small := size_of_structure object
  have field {name s : String} (read : requiredField fields name = some s) :
      textSize s ≤ x.size := by
    obtain ⟨y, text, size⟩ := namedSize_of_required read
    rw [← deserialize_text text, ← size]
    exact Nat.le_trans (namedSize_le fields name) small
  split at h
  · obtain rfl := Option.some.inj h
    exact Nat.zero_le _
  · obtain ⟨path, read, same⟩ := Option.bind_eq_some_iff.mp h
    obtain rfl := Option.some.inj same
    exact field read
  · obtain ⟨target, read, same⟩ := Option.bind_eq_some_iff.mp h
    obtain rfl := Option.some.inj same
    exact field read
  · obtain rfl := Option.some.inj h
    exact Nat.zero_le _
  · cases h

theorem echo_le_of_request {x : Json} {r : ClientRequest} (h : deserialize x = some r) :
    r.echo ≤ x.size := by
  change ClientRequest.ofJson? x = some r at h
  simp only [ClientRequest.ofJson?, bind, Option.bind_eq_some_iff, pure, Option.some.injEq] at h
  obtain ⟨fields, object, version, _, requestId, id, method, read, key, _, rfl⟩ := h
  obtain ⟨y, text, size₁⟩ := namedSize_of_required id
  obtain ⟨z, inner, size₂⟩ := namedSize_of_required read
  have both : namedSize fields "requestId" + namedSize fields "method" ≤ fieldsSize fields :=
    namedSize_add_le (by decide) fields
  have whole := size_of_structure object
  have first := deserialize_text text
  have second := echo_le_of_method inner
  simp only [ClientRequest.echo]
  omega

theorem serdeJson_frugal : (serdeJson ClientRequest).Frugal := by
  intro bytes r read
  simp only [serdeJson] at read
  split at read
  · cases read
  · rename_i s text
    split at read
    · cases read
    · rename_i v parsed
      obtain rfl := Except.ok.inj read
      obtain ⟨x, value, shape⟩ := Option.bind_eq_some_iff.mp parsed
      calc v.echo ≤ x.size := echo_le_of_request shape
        _ ≤ width s.toList := size_parse value
        _ = bytes.length := by rw [← length_utf8, String.ofList_toList, utf8_of_fromUTF8? text]

theorem jsonSize_cancelRequest (requestId target key : String) :
    jsonSize (⟨PROTOCOL_VERSION,requestId,.cancelRequest target,some key⟩ : ClientRequest) =
      textSize requestId + textSize target + textSize key + 105 := by
  have method : (serialize (RequestMethod.cancelRequest target)).size = textSize target + 43 := by
    change (RequestMethod.cancelRequest target).toJson.size = _
    simp only [RequestMethod.toJson, size_object, fieldsSize, size_string, textSize_names,
      size_text]
    omega
  have version := jsonSize_version
  have present : (serialize (some key)).size = textSize key := rfl
  unfold jsonSize at version
  change (ClientRequest.toJson _).size = _
  simp only [ClientRequest.toJson, size_object, fieldsSize, textSize_names, size_text, method,
    version, present]
  omega

end Requests

end Kesharon.Protocol

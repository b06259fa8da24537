import Kesharon.Framework.Serde
import Kesharon.Protocol.Message

namespace Kesharon.Protocol

open Framework Framework.Serde

instance : Serde HealthStatus where
  serialize
    | .ready => .string "ready"
    | .degraded => .string "degraded"
  deserialize := variant? [("ready", .ready), ("degraded", .degraded)]

instance : Serde ErrorCode where
  serialize
    | .invalidRequest => .string "invalidRequest"
    | .notGitRepository => .string "notGitRepository"
    | .projectPathUnavailable => .string "projectPathUnavailable"
    | .operationCancelled => .string "operationCancelled"
    | .requestInProgress => .string "requestInProgress"
    | .serverBusy => .string "serverBusy"
    | .internalError => .string "internalError"
  deserialize := variant? [
    ("invalidRequest", .invalidRequest),
    ("notGitRepository", .notGitRepository),
    ("projectPathUnavailable", .projectPathUnavailable),
    ("operationCancelled", .operationCancelled),
    ("requestInProgress", .requestInProgress),
    ("serverBusy", .serverBusy),
    ("internalError", .internalError)]

instance : Serde CancellationOutcome where
  serialize
    | .accepted => .string "accepted"
    | .alreadyFinished => .string "alreadyFinished"
    | .notFound => .string "notFound"
  deserialize := variant? [
    ("accepted", .accepted), ("alreadyFinished", .alreadyFinished), ("notFound", .notFound)]

instance : Serde OperationKind where
  serialize
    | .openProject => .string "openProject"
  deserialize := variant? [("openProject", .openProject)]

instance : Serde OperationStatus where
  serialize
    | .running => .string "running"
  deserialize := variant? [("running", .running)]

/-- The tag of the enumeration is the field `type`. -/
def RequestMethod.toJson : RequestMethod → Json
  | .health => .object [("type", .string "health")]
  | .openProject path => .object [("type", .string "openProject"), ("path", serialize path)]
  | .cancelRequest targetRequestId => .object [
      ("type", .string "cancelRequest"), ("targetRequestId", serialize targetRequestId)]
  | .subscribeEvents => .object [("type", .string "subscribeEvents")]

def RequestMethod.ofJson? (x : Json) : Option RequestMethod := do
  let fields ← structure? x
  match ← tag? fields "type" with
  | "health" => some .health
  | "openProject" => return .openProject (← requiredField fields "path")
  | "cancelRequest" => return .cancelRequest (← requiredField fields "targetRequestId")
  | "subscribeEvents" => some .subscribeEvents
  | _ => none

instance : Serde RequestMethod := ⟨RequestMethod.toJson, RequestMethod.ofJson?⟩

def ClientRequest.toJson (r : ClientRequest) : Json := .object [
  ("protocolVersion", serialize r.protocolVersion),
  ("requestId", serialize r.requestId),
  ("method", serialize r.method),
  ("idempotencyKey", serialize r.idempotencyKey)]

def ClientRequest.ofJson? (x : Json) : Option ClientRequest := do
  let fields ← structure? x
  return {
    protocolVersion := ← requiredField fields "protocolVersion"
    requestId := ← requiredField fields "requestId"
    method := ← requiredField fields "method"
    idempotencyKey := ← optionalField fields "idempotencyKey" }

instance : Serde ClientRequest := ⟨ClientRequest.toJson, ClientRequest.ofJson?⟩

def ProjectSnapshot.toJson (p : ProjectSnapshot) : Json := .object [
  ("id", serialize p.id),
  ("displayName", serialize p.displayName),
  ("canonicalRoot", serialize p.canonicalRoot),
  ("trusted", serialize p.trusted)]

def ProjectSnapshot.ofJson? (x : Json) : Option ProjectSnapshot := do
  let fields ← structure? x
  return {
    id := ← requiredField fields "id"
    displayName := ← requiredField fields "displayName"
    canonicalRoot := ← requiredField fields "canonicalRoot"
    trusted := ← requiredField fields "trusted" }

instance : Serde ProjectSnapshot := ⟨ProjectSnapshot.toJson, ProjectSnapshot.ofJson?⟩

def ErrorPayload.toJson (e : ErrorPayload) : Json :=
  .object [("code", serialize e.code), ("message", serialize e.message)]

def ErrorPayload.ofJson? (x : Json) : Option ErrorPayload := do
  let fields ← structure? x
  return { code := ← requiredField fields "code", message := ← requiredField fields "message" }

instance : Serde ErrorPayload := ⟨ErrorPayload.toJson, ErrorPayload.ofJson?⟩

def ResponsePayload.toJson : ResponsePayload → Json
  | .health status protocolVersion => .object [
      ("type", .string "health"),
      ("status", serialize status),
      ("protocolVersion", serialize protocolVersion)]
  | .projectOpened project => .object [
      ("type", .string "projectOpened"), ("project", serialize project)]
  | .cancellation targetRequestId outcome => .object [
      ("type", .string "cancellation"),
      ("targetRequestId", serialize targetRequestId),
      ("outcome", serialize outcome)]
  | .subscriptionReady streamId => .object [
      ("type", .string "subscriptionReady"), ("streamId", serialize streamId)]

def ResponsePayload.ofJson? (x : Json) : Option ResponsePayload := do
  let fields ← structure? x
  match ← tag? fields "type" with
  | "health" =>
    return .health (← requiredField fields "status") (← requiredField fields "protocolVersion")
  | "projectOpened" => return .projectOpened (← requiredField fields "project")
  | "cancellation" =>
    return .cancellation (← requiredField fields "targetRequestId") (← requiredField fields "outcome")
  | "subscriptionReady" => return .subscriptionReady (← requiredField fields "streamId")
  | _ => none

instance : Serde ResponsePayload := ⟨ResponsePayload.toJson, ResponsePayload.ofJson?⟩

def ServerResponse.toJson (r : ServerResponse) : Json := .object [
  ("protocolVersion", serialize r.protocolVersion),
  ("requestId", serialize r.requestId),
  ("result", serialize r.result),
  ("error", serialize r.error)]

def ServerResponse.ofJson? (x : Json) : Option ServerResponse := do
  let fields ← structure? x
  return {
    protocolVersion := ← requiredField fields "protocolVersion"
    requestId := ← requiredField fields "requestId"
    result := ← optionalField fields "result"
    error := ← optionalField fields "error" }

instance : Serde ServerResponse := ⟨ServerResponse.toJson, ServerResponse.ofJson?⟩

def OperationSnapshot.toJson (o : OperationSnapshot) : Json := .object [
  ("requestId", serialize o.requestId),
  ("kind", serialize o.kind),
  ("status", serialize o.status)]

def OperationSnapshot.ofJson? (x : Json) : Option OperationSnapshot := do
  let fields ← structure? x
  return {
    requestId := ← requiredField fields "requestId"
    kind := ← requiredField fields "kind"
    status := ← requiredField fields "status" }

instance : Serde OperationSnapshot := ⟨OperationSnapshot.toJson, OperationSnapshot.ofJson?⟩

def WorkspaceSnapshot.toJson (s : WorkspaceSnapshot) : Json := .object [
  ("streamId", serialize s.streamId),
  ("lastSequence", serialize s.lastSequence),
  ("project", serialize s.project),
  ("activeOperations", serialize s.activeOperations)]

def WorkspaceSnapshot.ofJson? (x : Json) : Option WorkspaceSnapshot := do
  let fields ← structure? x
  return {
    streamId := ← requiredField fields "streamId"
    lastSequence := ← requiredField fields "lastSequence"
    project := ← optionalField fields "project"
    activeOperations := ← requiredField fields "activeOperations" }

instance : Serde WorkspaceSnapshot := ⟨WorkspaceSnapshot.toJson, WorkspaceSnapshot.ofJson?⟩

def DaemonEventPayload.toJson : DaemonEventPayload → Json
  | .operationStarted requestId kind => .object [
      ("type", .string "operationStarted"),
      ("requestId", serialize requestId),
      ("kind", serialize kind)]
  | .projectOpened requestId project => .object [
      ("type", .string "projectOpened"),
      ("requestId", serialize requestId),
      ("project", serialize project)]
  | .operationCancelled requestId => .object [
      ("type", .string "operationCancelled"), ("requestId", serialize requestId)]
  | .operationFailed requestId code message => .object [
      ("type", .string "operationFailed"),
      ("requestId", serialize requestId),
      ("code", serialize code),
      ("message", serialize message)]

def DaemonEventPayload.ofJson? (x : Json) : Option DaemonEventPayload := do
  let fields ← structure? x
  match ← tag? fields "type" with
  | "operationStarted" =>
    return .operationStarted (← requiredField fields "requestId") (← requiredField fields "kind")
  | "projectOpened" =>
    return .projectOpened (← requiredField fields "requestId") (← requiredField fields "project")
  | "operationCancelled" => return .operationCancelled (← requiredField fields "requestId")
  | "operationFailed" =>
    return .operationFailed (← requiredField fields "requestId") (← requiredField fields "code")
      (← requiredField fields "message")
  | _ => none

instance : Serde DaemonEventPayload := ⟨DaemonEventPayload.toJson, DaemonEventPayload.ofJson?⟩

def DaemonEvent.toJson (e : DaemonEvent) : Json := .object [
  ("protocolVersion", serialize e.protocolVersion),
  ("streamId", serialize e.streamId),
  ("sequence", serialize e.sequence),
  ("payload", serialize e.payload)]

def DaemonEvent.ofJson? (x : Json) : Option DaemonEvent := do
  let fields ← structure? x
  return {
    protocolVersion := ← requiredField fields "protocolVersion"
    streamId := ← requiredField fields "streamId"
    sequence := ← requiredField fields "sequence"
    payload := ← requiredField fields "payload" }

instance : Serde DaemonEvent := ⟨DaemonEvent.toJson, DaemonEvent.ofJson?⟩

/-- The tag of the enumeration is the field `messageType`. -/
def StreamMessage.toJson : StreamMessage → Json
  | .snapshot s => .object [
      ("messageType", .string "snapshot"), ("snapshot", serialize s)]
  | .event e => .object [("messageType", .string "event"), ("event", serialize e)]

def StreamMessage.ofJson? (x : Json) : Option StreamMessage := do
  let fields ← structure? x
  match ← tag? fields "messageType" with
  | "snapshot" => return .snapshot (← requiredField fields "snapshot")
  | "event" => return .event (← requiredField fields "event")
  | _ => none

instance : Serde StreamMessage := ⟨StreamMessage.toJson, StreamMessage.ofJson?⟩

open LawfulSerde

instance : LawfulSerde HealthStatus where
  levels := 0
  deserialize_serialize v := by cases v <;> rfl
  plain v := by cases v <;> rfl
  depth_le v := by cases v <;> exact Nat.le_refl 0

instance : LawfulSerde ErrorCode where
  levels := 0
  deserialize_serialize v := by cases v <;> rfl
  plain v := by cases v <;> rfl
  depth_le v := by cases v <;> exact Nat.le_refl 0

instance : LawfulSerde CancellationOutcome where
  levels := 0
  deserialize_serialize v := by cases v <;> rfl
  plain v := by cases v <;> rfl
  depth_le v := by cases v <;> exact Nat.le_refl 0

instance : LawfulSerde OperationKind where
  levels := 0
  deserialize_serialize v := by cases v; rfl
  plain v := by cases v; rfl
  depth_le v := by cases v; exact Nat.le_refl 0

instance : LawfulSerde OperationStatus where
  levels := 0
  deserialize_serialize v := by cases v; rfl
  plain v := by cases v; rfl
  depth_le v := by cases v; exact Nat.le_refl 0

theorem object_depth_le {fields : List (String × Json)} {n : Nat}
    (h : ∀ f ∈ fields, f.2.depth ≤ n) : (Json.object fields).depth ≤ n + 1 := by
  refine Nat.succ_le_succ ?_
  induction fields with
  | nil => exact Nat.zero_le n
  | cons f fields ih =>
    obtain ⟨k, x⟩ := f
    obtain ⟨first, others⟩ := List.forall_mem_cons.mp h
    exact Nat.max_le.mpr ⟨first, ih others⟩

theorem object_plain {fields : List (String × Json)} (h : ∀ f ∈ fields, f.2.plain = true) :
    (Json.object fields).plain = true := by
  change Json.plainFields fields = true
  induction fields with
  | nil => rfl
  | cons f fields ih =>
    obtain ⟨k, x⟩ := f
    obtain ⟨first, others⟩ := List.forall_mem_cons.mp h
    exact Bool.and_eq_true_iff.mpr ⟨first, ih others⟩

instance : LawfulSerde RequestMethod where
  levels := 1
  deserialize_serialize v := by
    change RequestMethod.ofJson? v.toJson = some v
    cases v <;> simp [RequestMethod.toJson, RequestMethod.ofJson?, structure?, tag?, field?, requiredField]
  plain v := by
    change v.toJson.plain = true
    cases v <;> simp [RequestMethod.toJson, object_plain, Json.plain]
  depth_le v := by
    change v.toJson.depth ≤ 1
    cases v with
    | health =>
      refine object_depth_le ?_
      simp only [List.forall_mem_cons]
      exact ⟨Nat.zero_le _, nofun⟩
    | openProject path =>
      refine object_depth_le ?_
      simp only [List.forall_mem_cons]
      exact ⟨Nat.zero_le _, depth_le_of (by decide) path, nofun⟩
    | cancelRequest targetRequestId =>
      refine object_depth_le ?_
      simp only [List.forall_mem_cons]
      exact ⟨Nat.zero_le _, depth_le_of (by decide) targetRequestId, nofun⟩
    | subscribeEvents =>
      refine object_depth_le ?_
      simp only [List.forall_mem_cons]
      exact ⟨Nat.zero_le _, nofun⟩

instance : LawfulSerde ClientRequest where
  levels := 2
  deserialize_serialize v := by
    change ClientRequest.ofJson? v.toJson = some v
    simp [ClientRequest.toJson, ClientRequest.ofJson?, structure?, field?,
      requiredField, optionalField]
  plain v := by
    change v.toJson.plain = true
    simp [ClientRequest.toJson, object_plain]
  depth_le v := by
    change v.toJson.depth ≤ 2
    refine object_depth_le ?_
    simp only [List.forall_mem_cons]
    exact ⟨depth_le_of (by decide) v.protocolVersion, depth_le_of (by decide) v.requestId,
      depth_le_of (by decide) v.method, depth_le_of (by decide) v.idempotencyKey, nofun⟩

instance : LawfulSerde ProjectSnapshot where
  levels := 1
  deserialize_serialize v := by
    change ProjectSnapshot.ofJson? v.toJson = some v
    simp [ProjectSnapshot.toJson, ProjectSnapshot.ofJson?, structure?, field?, requiredField]
  plain v := by
    change v.toJson.plain = true
    simp [ProjectSnapshot.toJson, object_plain]
  depth_le v := by
    change v.toJson.depth ≤ 1
    refine object_depth_le ?_
    simp only [List.forall_mem_cons]
    exact ⟨depth_le_of (by decide) v.id, depth_le_of (by decide) v.displayName,
      depth_le_of (by decide) v.canonicalRoot, depth_le_of (by decide) v.trusted, nofun⟩

instance : NonNull ProjectSnapshot := ⟨fun v => by exact nofun⟩

instance : LawfulSerde ErrorPayload where
  levels := 1
  deserialize_serialize v := by
    change ErrorPayload.ofJson? v.toJson = some v
    simp [ErrorPayload.toJson, ErrorPayload.ofJson?, structure?, field?, requiredField]
  plain v := by
    change v.toJson.plain = true
    simp [ErrorPayload.toJson, object_plain]
  depth_le v := by
    change v.toJson.depth ≤ 1
    refine object_depth_le ?_
    simp only [List.forall_mem_cons]
    exact ⟨depth_le_of (by decide) v.code, depth_le_of (by decide) v.message, nofun⟩

instance : NonNull ErrorPayload := ⟨fun v => by exact nofun⟩

instance : LawfulSerde ResponsePayload where
  levels := 2
  deserialize_serialize v := by
    change ResponsePayload.ofJson? v.toJson = some v
    cases v <;> simp [ResponsePayload.toJson, ResponsePayload.ofJson?, structure?, tag?, field?, requiredField]
  plain v := by
    change v.toJson.plain = true
    cases v <;> simp [ResponsePayload.toJson, object_plain, Json.plain]
  depth_le v := by
    change v.toJson.depth ≤ 2
    cases v with
    | health status protocolVersion =>
      refine object_depth_le ?_
      simp only [List.forall_mem_cons]
      exact ⟨Nat.zero_le _, depth_le_of (by decide) status, depth_le_of (by decide) protocolVersion,
        nofun⟩
    | projectOpened project =>
      refine object_depth_le ?_
      simp only [List.forall_mem_cons]
      exact ⟨Nat.zero_le _, depth_le_of (by decide) project, nofun⟩
    | cancellation targetRequestId outcome =>
      refine object_depth_le ?_
      simp only [List.forall_mem_cons]
      exact ⟨Nat.zero_le _, depth_le_of (by decide) targetRequestId,
        depth_le_of (by decide) outcome, nofun⟩
    | subscriptionReady streamId =>
      refine object_depth_le ?_
      simp only [List.forall_mem_cons]
      exact ⟨Nat.zero_le _, depth_le_of (by decide) streamId, nofun⟩

instance : NonNull ResponsePayload := ⟨fun v => by cases v <;> exact nofun⟩

instance : LawfulSerde ServerResponse where
  levels := 3
  deserialize_serialize v := by
    change ServerResponse.ofJson? v.toJson = some v
    simp [ServerResponse.toJson, ServerResponse.ofJson?, structure?, field?,
      requiredField, optionalField]
  plain v := by
    change v.toJson.plain = true
    simp [ServerResponse.toJson, object_plain]
  depth_le v := by
    change v.toJson.depth ≤ 3
    refine object_depth_le ?_
    simp only [List.forall_mem_cons]
    exact ⟨depth_le_of (by decide) v.protocolVersion, depth_le_of (by decide) v.requestId,
      depth_le_of (by decide) v.result, depth_le_of (by decide) v.error, nofun⟩

instance : LawfulSerde OperationSnapshot where
  levels := 1
  deserialize_serialize v := by
    change OperationSnapshot.ofJson? v.toJson = some v
    simp [OperationSnapshot.toJson, OperationSnapshot.ofJson?, structure?, field?, requiredField]
  plain v := by
    change v.toJson.plain = true
    simp [OperationSnapshot.toJson, object_plain]
  depth_le v := by
    change v.toJson.depth ≤ 1
    refine object_depth_le ?_
    simp only [List.forall_mem_cons]
    exact ⟨depth_le_of (by decide) v.requestId, depth_le_of (by decide) v.kind,
      depth_le_of (by decide) v.status, nofun⟩

instance : LawfulSerde WorkspaceSnapshot where
  levels := 3
  deserialize_serialize v := by
    change WorkspaceSnapshot.ofJson? v.toJson = some v
    simp [WorkspaceSnapshot.toJson, WorkspaceSnapshot.ofJson?, structure?, field?,
      requiredField, optionalField]
  plain v := by
    change v.toJson.plain = true
    simp [WorkspaceSnapshot.toJson, object_plain]
  depth_le v := by
    change v.toJson.depth ≤ 3
    refine object_depth_le ?_
    simp only [List.forall_mem_cons]
    exact ⟨depth_le_of (by decide) v.streamId, depth_le_of (by decide) v.lastSequence,
      depth_le_of (by decide) v.project, depth_le_of (by decide) v.activeOperations, nofun⟩

instance : LawfulSerde DaemonEventPayload where
  levels := 2
  deserialize_serialize v := by
    change DaemonEventPayload.ofJson? v.toJson = some v
    cases v <;> simp [DaemonEventPayload.toJson, DaemonEventPayload.ofJson?, structure?, tag?, field?, requiredField]
  plain v := by
    change v.toJson.plain = true
    cases v <;> simp [DaemonEventPayload.toJson, object_plain, Json.plain]
  depth_le v := by
    change v.toJson.depth ≤ 2
    cases v with
    | operationStarted requestId kind =>
      refine object_depth_le ?_
      simp only [List.forall_mem_cons]
      exact ⟨Nat.zero_le _, depth_le_of (by decide) requestId, depth_le_of (by decide) kind, nofun⟩
    | projectOpened requestId project =>
      refine object_depth_le ?_
      simp only [List.forall_mem_cons]
      exact ⟨Nat.zero_le _, depth_le_of (by decide) requestId, depth_le_of (by decide) project,
        nofun⟩
    | operationCancelled requestId =>
      refine object_depth_le ?_
      simp only [List.forall_mem_cons]
      exact ⟨Nat.zero_le _, depth_le_of (by decide) requestId, nofun⟩
    | operationFailed requestId code message =>
      refine object_depth_le ?_
      simp only [List.forall_mem_cons]
      exact ⟨Nat.zero_le _, depth_le_of (by decide) requestId, depth_le_of (by decide) code,
        depth_le_of (by decide) message, nofun⟩

instance : LawfulSerde DaemonEvent where
  levels := 3
  deserialize_serialize v := by
    change DaemonEvent.ofJson? v.toJson = some v
    simp [DaemonEvent.toJson, DaemonEvent.ofJson?, structure?, field?, requiredField]
  plain v := by
    change v.toJson.plain = true
    simp [DaemonEvent.toJson, object_plain]
  depth_le v := by
    change v.toJson.depth ≤ 3
    refine object_depth_le ?_
    simp only [List.forall_mem_cons]
    exact ⟨depth_le_of (by decide) v.protocolVersion, depth_le_of (by decide) v.streamId,
      depth_le_of (by decide) v.sequence, depth_le_of (by decide) v.payload, nofun⟩

instance : LawfulSerde StreamMessage where
  levels := 4
  deserialize_serialize v := by
    change StreamMessage.ofJson? v.toJson = some v
    cases v <;> simp [StreamMessage.toJson, StreamMessage.ofJson?, structure?, tag?, field?, requiredField]
  plain v := by
    change v.toJson.plain = true
    cases v <;> simp [StreamMessage.toJson, object_plain, Json.plain]
  depth_le v := by
    change v.toJson.depth ≤ 4
    cases v with
    | snapshot s =>
      refine object_depth_le ?_
      simp only [List.forall_mem_cons]
      exact ⟨Nat.zero_le _, depth_le_of (by decide) s, nofun⟩
    | event e =>
      refine object_depth_le ?_
      simp only [List.forall_mem_cons]
      exact ⟨Nat.zero_le _, depth_le_of (by decide) e, nofun⟩

end Kesharon.Protocol

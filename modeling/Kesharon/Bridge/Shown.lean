import Kesharon.Bridge.Decoders
import Kesharon.Host.StreamWorker
import Kesharon.Protocol.Serde
import Mathlib.Data.List.Forall2

namespace Kesharon.Host

open Framework

/-- The derived `Serialize`, with the tag `type`. -/
def DaemonStreamUpdate.toJson : DaemonStreamUpdate → Json
  | .message m => .object [("type", .string "message"), ("message", serialize m)]
  | .reconnecting => .object [("type", .string "reconnecting")]
  | .unavailable m => .object [("type", .string "unavailable"), ("message", serialize m)]

end Kesharon.Host

namespace Kesharon.Bridge

open Framework Host Protocol

/-- The literal of the TypeScript type. -/
def healthLiteral : HealthStatus → String
  | .ready => "ready"
  | .degraded => "degraded"

def errorLiteral : ErrorCode → String
  | .invalidRequest => "invalidRequest"
  | .notGitRepository => "notGitRepository"
  | .projectPathUnavailable => "projectPathUnavailable"
  | .operationCancelled => "operationCancelled"
  | .requestInProgress => "requestInProgress"
  | .serverBusy => "serverBusy"
  | .internalError => "internalError"

def outcomeLiteral : CancellationOutcome → String
  | .accepted => "accepted"
  | .alreadyFinished => "alreadyFinished"
  | .notFound => "notFound"

def kindLiteral : OperationKind → String
  | .openProject => "openProject"

def statusLiteral : OperationStatus → String
  | .running => "running"

/-- The object has the fields of the project, under the names of the TypeScript interface. -/
structure ShowsProject (value : Script) (p : ProjectSnapshot) : Prop where
  record : value.isRecord = true
  id : value.prop "id" = .string p.id
  displayName : value.prop "displayName" = .string p.displayName
  canonicalRoot : value.prop "canonicalRoot" = .string p.canonicalRoot
  trusted : value.prop "trusted" = .boolean p.trusted

structure ShowsError (value : Script) (e : ErrorPayload) : Prop where
  record : value.isRecord = true
  code : value.prop "code" = .string (errorLiteral e.code)
  message : value.prop "message" = .string e.message

/-- The object is of the same variant, with the same fields. -/
inductive ShowsResult (value : Script) : ResponsePayload → Prop where
  | health (status : HealthStatus) (version : UInt16) (record : value.isRecord = true)
      (type : value.prop "type" = .string "health")
      (health : value.prop "status" = .string (healthLiteral status))
      (protocolVersion : value.prop "protocolVersion" = .number (Rat.ofInt version.toNat)) :
      ShowsResult value (.health status version)
  | projectOpened (p : ProjectSnapshot) (record : value.isRecord = true)
      (type : value.prop "type" = .string "projectOpened")
      (project : ShowsProject (value.prop "project") p) : ShowsResult value (.projectOpened p)
  | cancellation (target : String) (outcome : CancellationOutcome) (record : value.isRecord = true)
      (type : value.prop "type" = .string "cancellation")
      (targetRequestId : value.prop "targetRequestId" = .string target)
      (result : value.prop "outcome" = .string (outcomeLiteral outcome)) :
      ShowsResult value (.cancellation target outcome)
  | subscriptionReady (id : String) (record : value.isRecord = true)
      (type : value.prop "type" = .string "subscriptionReady")
      (streamId : value.prop "streamId" = .string id) : ShowsResult value (.subscriptionReady id)

/-- An optional field that is missing is `null`. -/
def ShowsOption {α : Type} (Shows : Script → α → Prop) (value : Script) : Option α → Prop
  | none => value = .null
  | some v => Shows value v

structure ShowsResponse (value : Script) (r : ServerResponse) : Prop where
  record : value.isRecord = true
  protocolVersion : value.prop "protocolVersion" = .number (Rat.ofInt r.protocolVersion.toNat)
  requestId : value.prop "requestId" = .string r.requestId
  result : ShowsOption ShowsResult (value.prop "result") r.result
  error : ShowsOption ShowsError (value.prop "error") r.error

structure ShowsOperation (value : Script) (o : OperationSnapshot) : Prop where
  record : value.isRecord = true
  requestId : value.prop "requestId" = .string o.requestId
  kind : value.prop "kind" = .string (kindLiteral o.kind)
  status : value.prop "status" = .string (statusLiteral o.status)

structure ShowsSnapshot (value : Script) (s : WorkspaceSnapshot) : Prop where
  record : value.isRecord = true
  streamId : value.prop "streamId" = .string s.streamId
  lastSequence : value.prop "lastSequence" = .number (Rat.ofInt s.lastSequence.toNat)
  project : ShowsOption ShowsProject (value.prop "project") s.project
  activeOperations : ∃ items, value.prop "activeOperations" = .array items ∧
    List.Forall₂ ShowsOperation items s.activeOperations

inductive ShowsPayload (value : Script) : DaemonEventPayload → Prop where
  | operationStarted (r : String) (k : OperationKind) (record : value.isRecord = true)
      (type : value.prop "type" = .string "operationStarted")
      (requestId : value.prop "requestId" = .string r)
      (kind : value.prop "kind" = .string (kindLiteral k)) :
      ShowsPayload value (.operationStarted r k)
  | projectOpened (r : String) (p : ProjectSnapshot) (record : value.isRecord = true)
      (type : value.prop "type" = .string "projectOpened")
      (requestId : value.prop "requestId" = .string r)
      (project : ShowsProject (value.prop "project") p) : ShowsPayload value (.projectOpened r p)
  | operationCancelled (r : String) (record : value.isRecord = true)
      (type : value.prop "type" = .string "operationCancelled")
      (requestId : value.prop "requestId" = .string r) : ShowsPayload value (.operationCancelled r)
  | operationFailed (r : String) (c : ErrorCode) (m : String) (record : value.isRecord = true)
      (type : value.prop "type" = .string "operationFailed")
      (requestId : value.prop "requestId" = .string r)
      (code : value.prop "code" = .string (errorLiteral c))
      (message : value.prop "message" = .string m) : ShowsPayload value (.operationFailed r c m)

structure ShowsEvent (value : Script) (e : DaemonEvent) : Prop where
  record : value.isRecord = true
  protocolVersion : value.prop "protocolVersion" = .number (Rat.ofInt e.protocolVersion.toNat)
  streamId : value.prop "streamId" = .string e.streamId
  sequence : value.prop "sequence" = .number (Rat.ofInt e.sequence.toNat)
  payload : ShowsPayload (value.prop "payload") e.payload

inductive ShowsMessage (value : Script) : StreamMessage → Prop where
  | snapshot (s : WorkspaceSnapshot) (record : value.isRecord = true)
      (messageType : value.prop "messageType" = .string "snapshot")
      (shows : ShowsSnapshot (value.prop "snapshot") s) : ShowsMessage value (.snapshot s)
  | event (e : DaemonEvent) (record : value.isRecord = true)
      (messageType : value.prop "messageType" = .string "event")
      (shows : ShowsEvent (value.prop "event") e) : ShowsMessage value (.event e)

inductive ShowsUpdate (value : Script) : DaemonStreamUpdate → Prop where
  | message (m : StreamMessage) (record : value.isRecord = true)
      (type : value.prop "type" = .string "message")
      (shows : ShowsMessage (value.prop "message") m) : ShowsUpdate value (.message m)
  | reconnecting (record : value.isRecord = true)
      (type : value.prop "type" = .string "reconnecting") : ShowsUpdate value .reconnecting
  | unavailable (m : String) (record : value.isRecord = true)
      (type : value.prop "type" = .string "unavailable")
      (message : value.prop "message" = .string m) : ShowsUpdate value (.unavailable m)

section Serialized

variable (numerals : String → Rat)

open Script

@[simp] theorem ofJson_string (s : String) : ofJson numerals (.string s) = .string s := rfl

@[simp] theorem ofJson_object (fields : List (String × Json)) :
    ofJson numerals (.object fields) = .object (ofFields numerals fields) := rfl

@[simp] theorem ofFields_nil : ofFields numerals [] = [] := rfl

@[simp] theorem ofFields_cons (name : String) (value : Json) (fields : List (String × Json)) :
    ofFields numerals ((name, value) :: fields) =
      (name, ofJson numerals value) :: ofFields numerals fields := rfl

@[simp] theorem isRecord_object (fields : List (String × Script)) :
    (Script.object fields).isRecord = true := rfl

@[simp] theorem prop_object (fields : List (String × Script)) (name : String) :
    (Script.object fields).prop name =
      fields.foldl (fun found field => if field.1 = name then field.2 else found) undefined := rfl

@[simp] theorem ofJson_text (s : String) : ofJson numerals (serialize s) = .string s := rfl

@[simp] theorem ofJson_truth (b : Bool) : ofJson numerals (serialize b) = .boolean b := rfl

@[simp] theorem ofJson_health (s : HealthStatus) :
    ofJson numerals (serialize s) = .string (healthLiteral s) := by
  cases s <;> rfl

@[simp] theorem ofJson_code (c : ErrorCode) :
    ofJson numerals (serialize c) = .string (errorLiteral c) := by
  cases c <;> rfl

@[simp] theorem ofJson_outcome (o : CancellationOutcome) :
    ofJson numerals (serialize o) = .string (outcomeLiteral o) := by
  cases o <;> rfl

@[simp] theorem ofJson_kind (k : OperationKind) :
    ofJson numerals (serialize k) = .string (kindLiteral k) := by
  cases k
  rfl

@[simp] theorem ofJson_status (s : OperationStatus) :
    ofJson numerals (serialize s) = .string (statusLiteral s) := by
  cases s
  rfl

@[simp] theorem ofJson_version (v : UInt16) :
    ofJson numerals (serialize v) = .number (Rat.ofInt v.toNat) := by
  have bound := v.toNat_lt
  exact number_of_le (Nat.le_trans (Nat.le_of_lt bound) (by decide)) numerals

theorem ofJson_sequence {n : UInt64} (safe : n.toNat ≤ maxSafeInteger) :
    ofJson numerals (serialize n) = .number (Rat.ofInt n.toNat) :=
  number_of_le safe numerals

theorem shows_option {α : Type} [Serde α] {Shows : Script → α → Prop}
    (shows : ∀ v, Shows (ofJson numerals (serialize v)) v) (o : Option α) :
    ShowsOption Shows (ofJson numerals (serialize o)) o := by
  cases o with
  | none => rfl
  | some v => exact shows v

theorem shows_project (p : ProjectSnapshot) : ShowsProject (ofJson numerals (serialize p)) p := by
  change ShowsProject (ofJson numerals p.toJson) p
  constructor <;> simp [ProjectSnapshot.toJson]

theorem shows_error (e : ErrorPayload) : ShowsError (ofJson numerals (serialize e)) e := by
  change ShowsError (ofJson numerals e.toJson) e
  constructor <;> simp [ErrorPayload.toJson]

theorem shows_result (r : ResponsePayload) : ShowsResult (ofJson numerals (serialize r)) r := by
  change ShowsResult (ofJson numerals r.toJson) r
  cases r with
  | health status version =>
    constructor <;> simp [ResponsePayload.toJson]
  | projectOpened p =>
    have project := shows_project numerals p
    constructor <;> simp [ResponsePayload.toJson, project]
  | cancellation target outcome =>
    constructor <;> simp [ResponsePayload.toJson]
  | subscriptionReady id =>
    constructor <;> simp [ResponsePayload.toJson]

theorem shows_response (r : ServerResponse) : ShowsResponse (ofJson numerals (serialize r)) r := by
  change ShowsResponse (ofJson numerals r.toJson) r
  have result := shows_option numerals (shows_result numerals) r.result
  have error := shows_option numerals (shows_error numerals) r.error
  constructor <;> simp [ServerResponse.toJson, result, error]

theorem shows_operation (o : OperationSnapshot) :
    ShowsOperation (ofJson numerals (serialize o)) o := by
  change ShowsOperation (ofJson numerals o.toJson) o
  constructor <;> simp [OperationSnapshot.toJson]

theorem shows_operations (os : List OperationSnapshot) :
    ∃ items, ofJson numerals (serialize os) = .array items ∧
      List.Forall₂ ShowsOperation items os := by
  refine ⟨_, rfl, ?_⟩
  induction os with
  | nil => exact .nil
  | cons o os ih => exact .cons (shows_operation numerals o) ih

theorem shows_snapshot {s : WorkspaceSnapshot} (safe : s.lastSequence.toNat ≤ maxSafeInteger) :
    ShowsSnapshot (ofJson numerals (serialize s)) s := by
  change ShowsSnapshot (ofJson numerals s.toJson) s
  have sequence := ofJson_sequence numerals safe
  have project := shows_option numerals (shows_project numerals) s.project
  have operations := shows_operations numerals s.activeOperations
  constructor <;>
    simp [WorkspaceSnapshot.toJson, sequence, project, operations]

theorem shows_payload (p : DaemonEventPayload) :
    ShowsPayload (ofJson numerals (serialize p)) p := by
  change ShowsPayload (ofJson numerals p.toJson) p
  cases p with
  | operationStarted r k =>
    constructor <;> simp [DaemonEventPayload.toJson]
  | projectOpened r p =>
    have project := shows_project numerals p
    constructor <;> simp [DaemonEventPayload.toJson, project]
  | operationCancelled r =>
    constructor <;> simp [DaemonEventPayload.toJson]
  | operationFailed r c m =>
    constructor <;> simp [DaemonEventPayload.toJson]

theorem shows_event {e : DaemonEvent} (safe : e.sequence.toNat ≤ maxSafeInteger) :
    ShowsEvent (ofJson numerals (serialize e)) e := by
  change ShowsEvent (ofJson numerals e.toJson) e
  have sequence := ofJson_sequence numerals safe
  have payload := shows_payload numerals e.payload
  constructor <;>
    simp [DaemonEvent.toJson, sequence, payload]

/-- The number of a message is a safe integer. -/
def Safe : StreamMessage → Prop
  | .snapshot s => s.lastSequence.toNat ≤ maxSafeInteger
  | .event e => e.sequence.toNat ≤ maxSafeInteger

theorem shows_message {m : StreamMessage} (safe : Safe m) :
    ShowsMessage (ofJson numerals (serialize m)) m := by
  change ShowsMessage (ofJson numerals m.toJson) m
  cases m with
  | snapshot s =>
    have shows := shows_snapshot numerals safe
    constructor <;> simp [StreamMessage.toJson, shows]
  | event e =>
    have shows := shows_event numerals safe
    constructor <;> simp [StreamMessage.toJson, shows]

end Serialized

end Kesharon.Bridge

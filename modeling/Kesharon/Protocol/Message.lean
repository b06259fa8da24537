import Mathlib.Logic.Basic

namespace Kesharon.Protocol

/-- The largest `u64`. -/
def u64Max : UInt64 := 0xffffffffffffffff

/-- `u64::checked_add(1)` -/
def checkedSucc (n : UInt64) : Option UInt64 := if n = u64Max then none else some (n + 1)

theorem checkedSucc_eq_some {n m : UInt64} :
    checkedSucc n = some m ↔ n ≠ u64Max ∧ m.toNat = n.toNat + 1 := by
  have hmax (k : UInt64) : k = u64Max ↔ k.toNat = 2^64 - 1 := by
    rw [← UInt64.toNat_inj]
    rfl
  have hlt := n.toNat_lt
  unfold checkedSucc
  by_cases h : n = u64Max
  · simp [h]
  · rw [if_neg h]
    have hn : n.toNat + 1 < 2^64 := by
      have := mt (hmax n).mpr h
      omega
    have hadd : (n + 1).toNat = n.toNat + 1 := by
      rw [UInt64.toNat_add]
      exact Nat.mod_eq_of_lt hn
    constructor
    · intro he
      exact ⟨h, by rw [← Option.some.inj he, hadd]⟩
    · intro he
      rw [← UInt64.toNat_inj.mp (hadd.trans he.2.symm)]

/-- Below the maximum the checked increment succeeds. -/
theorem checkedSucc_of_lt {n : UInt64} (h : n < u64Max) :
    ∃ m, checkedSucc n = some m ∧ m.toNat = n.toNat + 1 := by
  have hn : n ≠ u64Max := by
    intro he
    rw [he] at h
    exact absurd h (by decide)
  cases hc : checkedSucc n with
  | none => simp [checkedSucc, hn] at hc
  | some m => exact ⟨m, rfl, (checkedSucc_eq_some.mp hc).2⟩

def PROTOCOL_VERSION : UInt16 := 1

def MAX_FRAME_BYTES : Nat := 8 * 1024 * 1024

inductive RequestMethod where
  | health
  | openProject (path : String)
  | cancelRequest (targetRequestId : String)
  | subscribeEvents
  deriving DecidableEq, Repr

def RequestMethod.requiresIdempotencyKey : RequestMethod → Bool
  | .openProject _ | .cancelRequest _ => true
  | .health | .subscribeEvents => false

/-- A request as deserialisation builds it; `ClientRequest.new` and the frame decoder check
the idempotency key. -/
structure ClientRequest where
  protocolVersion : UInt16
  requestId : String
  method : RequestMethod
  idempotencyKey : Option String
  deriving DecidableEq, Repr

inductive HealthStatus where
  | ready
  | degraded
  deriving DecidableEq, Repr

inductive ErrorCode where
  | invalidRequest
  | notGitRepository
  | projectPathUnavailable
  | operationCancelled
  | requestInProgress
  | serverBusy
  | internalError
  deriving DecidableEq, Repr

inductive CancellationOutcome where
  | accepted
  | alreadyFinished
  | notFound
  deriving DecidableEq, Repr

inductive OperationKind where
  | openProject
  deriving DecidableEq, Repr

inductive OperationStatus where
  | running
  deriving DecidableEq, Repr

structure ProjectSnapshot where
  id : String
  displayName : String
  canonicalRoot : String
  trusted : Bool
  deriving DecidableEq, Repr

structure ErrorPayload where
  code : ErrorCode
  message : String
  deriving DecidableEq, Repr

inductive ResponsePayload where
  | health (status : HealthStatus) (protocolVersion : UInt16)
  | projectOpened (project : ProjectSnapshot)
  | cancellation (targetRequestId : String) (outcome : CancellationOutcome)
  | subscriptionReady (streamId : String)
  deriving DecidableEq, Repr

structure ServerResponse where
  protocolVersion : UInt16
  requestId : String
  result : Option ResponsePayload
  error : Option ErrorPayload
  deriving DecidableEq, Repr

namespace ServerResponse

def success (requestId : String) (result : ResponsePayload) : ServerResponse :=
  ⟨PROTOCOL_VERSION,requestId,some result,none⟩

def failure (requestId : String) (code : ErrorCode) (message : String) : ServerResponse :=
  ⟨PROTOCOL_VERSION,requestId,none,some ⟨code,message⟩⟩

def withRequestId (r : ServerResponse) (requestId : String) : ServerResponse :=
  { r with requestId := requestId }

end ServerResponse

structure OperationSnapshot where
  requestId : String
  kind : OperationKind
  status : OperationStatus
  deriving DecidableEq, Repr

structure WorkspaceSnapshot where
  streamId : String
  lastSequence : UInt64
  project : Option ProjectSnapshot
  activeOperations : List OperationSnapshot
  deriving DecidableEq, Repr

inductive DaemonEventPayload where
  | operationStarted (requestId : String) (kind : OperationKind)
  | projectOpened (requestId : String) (project : ProjectSnapshot)
  | operationCancelled (requestId : String)
  | operationFailed (requestId : String) (code : ErrorCode) (message : String)
  deriving DecidableEq, Repr

/-- The request an event names. -/
def DaemonEventPayload.requestId : DaemonEventPayload → String
  | .operationStarted r _ | .projectOpened r _ | .operationCancelled r
  | .operationFailed r _ _ => r

def DaemonEventPayload.isStarted : DaemonEventPayload → Bool
  | .operationStarted _ _ => true
  | _ => false

structure DaemonEvent where
  protocolVersion : UInt16
  streamId : String
  sequence : UInt64
  payload : DaemonEventPayload
  deriving DecidableEq, Repr

inductive StreamMessage where
  | snapshot (snapshot : WorkspaceSnapshot)
  | event (event : DaemonEvent)
  deriving DecidableEq, Repr

inductive ProtocolError where
  | incompleteLengthPrefix
  | frameTooLarge (declared maximum : Nat)
  | frameLengthMismatch (declared actual : Nat)
  | malformedJson (error : String)
  | unsupportedVersion (version : UInt16)
  | missingIdempotencyKey
  | invalidLaunchToken
  | invalidResponseShape
  | invalidEventSequence
  deriving DecidableEq, Repr

def ProtocolError.toString : ProtocolError → String
  | .incompleteLengthPrefix => "frame length prefix is incomplete"
  | .frameTooLarge declared maximum =>
      "frame declares " ++ Nat.repr declared ++ " bytes; maximum is " ++ Nat.repr maximum
  | .frameLengthMismatch declared actual =>
      "frame declares " ++ Nat.repr declared ++ " bytes but contains " ++ Nat.repr actual
  | .malformedJson error => "malformed protocol JSON: " ++ error
  | .unsupportedVersion version => "unsupported protocol version " ++ Nat.repr version.toNat
  | .missingIdempotencyKey => "mutating request requires an idempotency key"
  | .invalidLaunchToken => "launch token must be 256-bit hex"
  | .invalidResponseShape => "response must contain exactly one result or error"
  | .invalidEventSequence => "event sequence must be greater than zero"

def ClientRequest.new (requestId : String) (method : RequestMethod)
    (idempotencyKey : Option String) : Except ProtocolError ClientRequest :=
  if method.requiresIdempotencyKey ∧ (idempotencyKey = none ∨ idempotencyKey = some "") then
    .error .missingIdempotencyKey
  else .ok ⟨PROTOCOL_VERSION,requestId,method,idempotencyKey⟩

def DaemonEvent.new (streamId : String) (sequence : UInt64) (payload : DaemonEventPayload) :
    Except ProtocolError DaemonEvent :=
  if sequence = 0 then .error .invalidEventSequence
  else .ok ⟨PROTOCOL_VERSION,streamId,sequence,payload⟩

end Kesharon.Protocol

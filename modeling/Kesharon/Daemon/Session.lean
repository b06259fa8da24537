import Kesharon.Application.OpenProject
import Kesharon.Framework.Fifo
import Kesharon.Framework.Machine
import Kesharon.Framework.SyncChannel
import Kesharon.Protocol.Message
import Mathlib.Data.Finset.Basic
import Mathlib.Logic.Function.Basic

namespace Kesharon.Daemon

open Framework Domain Protocol Application

def IDEMPOTENCY_LIMIT : Nat := 256

def SUBSCRIBER_CAPACITY : Nat := 64

/-- Address of a `CancellationFlag` shared by a thread and the active map. -/
abbrev FlagId := Nat

/-- Address of a subscriber channel. -/
abbrev ChannelId := Nat

structure ActiveOperation where
  cancellation : FlagId
  deriving DecidableEq, Repr

inductive MutationFingerprint where
  | openProject (path : String)
  | cancelRequest (targetRequestId : String)
  deriving DecidableEq, Repr

structure CompletedMutation where
  fingerprint : MutationFingerprint
  response : ServerResponse
  deriving DecidableEq, Repr

structure SessionState where
  project : Option ProjectSnapshot
  activeTask : Option Task
  active : Assoc String ActiveOperation
  inFlight : Assoc String MutationFingerprint
  completed : Assoc String CompletedMutation
  completedOrder : List String
  completedRequests : Finset String
  completedRequestOrder : List String
  sequence : UInt64
  subscriber : Option ChannelId

def SessionState.new : SessionState where
  project := none
  activeTask := none
  active := ∅
  inFlight := ∅
  completed := ∅
  completedOrder := []
  completedRequests := ∅
  completedRequestOrder := []
  sequence := 0
  subscriber := none

inductive SessionError where
  | stateUnavailable
  | sequenceExhausted
  deriving DecidableEq, Repr

/-- A call of `open_project` between its two critical sections. -/
structure OpenCall where
  request : ClientRequest
  key : String
  path : String
  cancellation : FlagId
  execution : Execution

def OpenCall.fingerprint (c : OpenCall) : MutationFingerprint := .openProject c.path

/-- The session state with everything its methods share: the durable store, the heaps of
cancellation flags and subscriber channels, the calls in progress, and whether the two locks
are poisoned. -/
structure World (σ : Type) where
  state : SessionState
  stateRepository : Option σ
  flags : FlagId → Bool
  flagCount : Nat
  channels : ChannelId → SyncChannel StreamMessage
  channelCount : Nat
  opens : Assoc FlagId OpenCall
  statePoisoned : Bool
  repositoryPoisoned : Bool

def snapshotOf (project : Project) : ProjectSnapshot where
  id := project.id.asStr
  displayName := project.displayName.text
  canonicalRoot := project.canonicalRoot.text
  trusted := project.trusted

def idempotencyConflict (requestId : String) : ServerResponse :=
  .failure requestId .invalidRequest "Idempotency key was already used for a different mutation"

def internalError (requestId : String) : ServerResponse :=
  .failure requestId .internalError "Daemon session state is unavailable"

def keyInProgress (requestId : String) : ServerResponse :=
  .failure requestId .requestInProgress "A request with this idempotency key is still running"

def requestInProgress (requestId : String) : ServerResponse :=
  .failure requestId .requestInProgress "A request with this request ID is still running"

def classifyApplicationError : ApplicationError → ErrorCode × String
  | .repository message =>
    if message = "notGitRepository" then
      (.notGitRepository, "Selected directory is not a Git worktree")
    else (.projectPathUnavailable, "Selected directory could not be opened")
  | .invalidProject _ => (.invalidRequest, "Project identity is invalid")
  | .storage _ => (.internalError, "Storage error encountered")
  | .vault _ => (.internalError, "Credential vault error encountered")
  | .cancelled => (.operationCancelled, "Project opening was cancelled")

/-- One call of `remember_completed`. -/
structure Completion where
  key : String
  fingerprint : MutationFingerprint
  requestId : String
  response : ServerResponse
  deriving DecidableEq, Repr

def Completion.mutation (c : Completion) : CompletedMutation := ⟨c.fingerprint,c.response⟩

/-- `remember_completed`; its two `while` loops are `evict`. -/
def SessionState.rememberCompleted (s : SessionState) (c : Completion) : SessionState :=
  let order := if c.key ∈ s.completed then s.completedOrder else s.completedOrder ++ [c.key]
  let completed := evict IDEMPOTENCY_LIMIT (fun m k => m.erase k) order
    (s.completed.insert c.key c.mutation)
  let requestOrder := if c.requestId ∈ s.completedRequests then s.completedRequestOrder
    else s.completedRequestOrder ++ [c.requestId]
  let requests := evict IDEMPOTENCY_LIMIT (fun m k => m.erase k) requestOrder
    (insert c.requestId s.completedRequests)
  { s with
    completed := completed.2
    completedOrder := completed.1
    completedRequests := requests.2
    completedRequestOrder := requests.1 }

/-- The lookups both mutations begin with: a completed key replays or conflicts, a running
key is refused. -/
def SessionState.admit (s : SessionState) (key : String) (fingerprint : MutationFingerprint)
    (requestId : String) : Option ServerResponse :=
  match s.completed.lookup key with
  | some completed =>
    if completed.fingerprint ≠ fingerprint then some (idempotencyConflict requestId)
    else some (completed.response.withRequestId requestId)
  | none =>
    match s.inFlight.lookup key with
    | some inFlight =>
      if inFlight ≠ fingerprint then some (idempotencyConflict requestId)
      else some (keyInProgress requestId)
    | none => none

namespace World

variable {σ : Type}

/-- `snapshot_locked`. The map is listed in some order; only its keys matter. -/
def snapshotLocked (streamId : String) (w : World σ) : WorkspaceSnapshot where
  streamId := streamId
  lastSequence := w.state.sequence
  project := w.state.project
  activeOperations := w.state.active.keys.map fun requestId => ⟨requestId,.openProject,.running⟩

/-- Offer an event to the subscriber; one that cannot take it is dropped. -/
def deliver (w : World σ) (event : DaemonEvent) : World σ :=
  match w.state.subscriber with
  | none => w
  | some ch =>
    match (w.channels ch).trySend (.event event) with
    | .ok c => { w with channels := Function.update w.channels ch c }
    | .error _ =>
      { w with
        state := { w.state with subscriber := none }
        channels := Function.update w.channels ch (w.channels ch).dropSender }

/-- `emit_locked`, with the event it has built. -/
def emitLocked (streamId : String) (w : World σ) (payload : DaemonEventPayload) :
    Except SessionError (World σ × DaemonEvent) :=
  match checkedSucc w.state.sequence with
  | none => .error .sequenceExhausted
  | some sequence =>
    match DaemonEvent.new streamId sequence payload with
    | .error _ => .error .sequenceExhausted
    | .ok event =>
      .ok (({ w with state := { w.state with sequence := sequence } }).deliver event, event)

/-- What a block under the session lock leaves behind and reports. -/
structure Settled (σ : Type) where
  world : World σ
  response : ServerResponse
  events : List DaemonEvent

/-- Emit, then respond; a failed emission responds `internal_error`. -/
def emitAndRespond (streamId : String) (w : World σ) (requestId : String)
    (payload : DaemonEventPayload) (after : World σ → World σ) (response : ServerResponse) :
    Settled σ :=
  match w.emitLocked streamId payload with
  | .error _ => ⟨w,internalError requestId,[]⟩
  | .ok (w', event) => ⟨after w',response,[event]⟩

def completeSuccess (streamId : String) (w : World σ) (requestId : String) (project : Project) :
    Settled σ :=
  w.emitAndRespond streamId requestId (.projectOpened requestId (snapshotOf project))
    (fun w => { w with state := { w.state with project := some (snapshotOf project) } })
    (.success requestId (.projectOpened (snapshotOf project)))

def completeCancellation (streamId : String) (w : World σ) (requestId : String) : Settled σ :=
  w.emitAndRespond streamId requestId (.operationCancelled requestId) id
    (.failure requestId .operationCancelled "Project opening was cancelled")

def completeFailure (streamId : String) (w : World σ) (requestId : String)
    (error : ApplicationError) : Settled σ :=
  let (code, message) := classifyApplicationError error
  w.emitAndRespond streamId requestId (.operationFailed requestId code message) id
    (.failure requestId code message)

end World

end Kesharon.Daemon

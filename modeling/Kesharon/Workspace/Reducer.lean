import Kesharon.Host.StreamWorker

namespace Kesharon.Workspace

open Protocol

structure HealthSnapshot where
  status : HealthStatus
  protocolVersion : UInt16
  deriving DecidableEq, Repr

inductive ConnectionState where
  | checking
  | ready (health : Option HealthSnapshot)
  | reconnecting
  | unavailable (message : Option String)
  deriving DecidableEq, Repr

inductive OpeningStatus where
  | opening
  | cancelling
  deriving DecidableEq, Repr

structure OpeningOperationState where
  requestId : String
  path : String
  status : OpeningStatus
  deriving DecidableEq, Repr

structure WorkspaceState where
  connection : ConnectionState
  project : Option ProjectSnapshot
  openingOperation : Option OpeningOperationState
  openingError : Option String
  taskGoal : String
  streamId : Option String
  lastSequence : Nat
  deriving DecidableEq, Repr

inductive WorkspaceAction where
  | setConnection (connection : ConnectionState)
  | applySnapshot (snapshot : WorkspaceSnapshot)
  | applyEvent (event : DaemonEvent)
  | startOpening (requestId path : String)
  | projectOpened (project : ProjectSnapshot)
  | openingFailed (message : String)
  | setOpeningStatus (status : OpeningStatus)
  | setTaskGoal (goal : String)
  | clearError
  deriving DecidableEq, Repr

def initialState : WorkspaceState where
  connection := .checking
  project := none
  openingOperation := none
  openingError := none
  taskGoal := ""
  streamId := none
  lastSequence := 0

namespace WorkspaceState

/-- `state.openingOperation?.path || ""` -/
def openingPath (state : WorkspaceState) : String :=
  match state.openingOperation with
  | some operation => operation.path
  | none => ""

/-- `state.openingOperation?.status || "opening"` -/
def openingStatus (state : WorkspaceState) : OpeningStatus :=
  match state.openingOperation with
  | some operation => operation.status
  | none => .opening

/-- `APPLY_SNAPSHOT` -/
def applySnapshot (state : WorkspaceState) (snapshot : WorkspaceSnapshot) : WorkspaceState :=
  let activeOpen := snapshot.activeOperations.find? fun op => op.kind = .openProject
  { state with
    connection := match state.connection with
      | .reconnecting | .checking => .ready none
      | connection => connection
    project := snapshot.project
    openingOperation := activeOpen.map fun op => ⟨op.requestId,state.openingPath,state.openingStatus⟩
    openingError := none
    streamId := some snapshot.streamId
    lastSequence := snapshot.lastSequence.toNat }

/-- `APPLY_EVENT` -/
def applyEvent (state : WorkspaceState) (event : DaemonEvent) : WorkspaceState :=
  let next := match event.payload with
    | .operationStarted requestId .openProject =>
      { state with openingOperation := some ⟨requestId,state.openingPath,.opening⟩ }
    | .projectOpened _ project =>
      { state with project := some project, openingOperation := none, openingError := none }
    | .operationCancelled _ => { state with openingOperation := none }
    | .operationFailed _ _ message =>
      { state with openingOperation := none, openingError := some message }
  { next with streamId := some event.streamId, lastSequence := event.sequence.toNat }

end WorkspaceState

def workspaceReducer (state : WorkspaceState) : WorkspaceAction → WorkspaceState
  | .setConnection connection => { state with connection := connection }
  | .applySnapshot snapshot => state.applySnapshot snapshot
  | .applyEvent event => state.applyEvent event
  | .startOpening requestId path =>
    { state with openingOperation := some ⟨requestId,path,.opening⟩, openingError := none }
  | .projectOpened project =>
    { state with project := some project, openingOperation := none, openingError := none }
  | .openingFailed message =>
    { state with openingOperation := none, openingError := some message }
  | .setOpeningStatus status =>
    match state.openingOperation with
    | none => state
    | some operation =>
      { state with openingOperation := some { operation with status := status } }
  | .setTaskGoal goal => { state with taskGoal := goal }
  | .clearError => { state with openingError := none }

/-- `handleStreamUpdate` for a message, direct or in an update. -/
def messageActions : StreamMessage → List WorkspaceAction
  | .snapshot snapshot => [.setConnection (.ready none),.applySnapshot snapshot]
  | .event event => [.setConnection (.ready none),.applyEvent event]

/-- The actions of `handleStreamUpdate`. -/
def updateActions : Host.DaemonStreamUpdate → List WorkspaceAction
  | .message m => messageActions m
  | .reconnecting => [.setConnection .reconnecting]
  | .unavailable m => [.setConnection (.unavailable (some m))]

def dispatchAll (state : WorkspaceState) (actions : List WorkspaceAction) : WorkspaceState :=
  actions.foldl workspaceReducer state

section Fields

variable (state : WorkspaceState)

@[simp] theorem applySnapshot_project (snapshot : WorkspaceSnapshot) :
    (state.applySnapshot snapshot).project = snapshot.project := rfl

@[simp] theorem applySnapshot_streamId (snapshot : WorkspaceSnapshot) :
    (state.applySnapshot snapshot).streamId = some snapshot.streamId := rfl

@[simp] theorem applySnapshot_lastSequence (snapshot : WorkspaceSnapshot) :
    (state.applySnapshot snapshot).lastSequence = snapshot.lastSequence.toNat := rfl

@[simp] theorem applyEvent_streamId (event : DaemonEvent) :
    (state.applyEvent event).streamId = some event.streamId := rfl

@[simp] theorem applyEvent_lastSequence (event : DaemonEvent) :
    (state.applyEvent event).lastSequence = event.sequence.toNat := rfl

/-- The card after an event: that of an operation that starts, and none at the end of any. -/
theorem applyEvent_openingOperation (event : DaemonEvent) :
    (state.applyEvent event).openingOperation =
      if event.payload.isStarted then
        some ⟨event.payload.requestId,state.openingPath,.opening⟩
      else none := by
  unfold WorkspaceState.applyEvent
  cases event.payload with
  | operationStarted requestId kind => cases kind; rfl
  | _ => rfl

end Fields

end Kesharon.Workspace

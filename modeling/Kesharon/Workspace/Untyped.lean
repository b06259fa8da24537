import Kesharon.Bridge.Calls
import Kesharon.Workspace.Window

namespace Kesharon.Workspace

open Framework Bridge Host Protocol Script

/-- A value counts as true. -/
def truthy : Script → Bool
  | .undefined | .null => false
  | .boolean b => b
  | .number x => x ≠ 0
  | .string s => s ≠ ""
  | .array _ | .object _ => true

/-- `value || text` -/
def orText (value : Script) (text : String) : Script :=
  if truthy value then value else .string text

/-- `name in value` -/
def hasProp (name : String) : Script → Bool
  | .object fields => fields.any fun field => field.1 = name
  | _ => false

/-- The state of `useReducer` with the values that its fields hold when the types are erased. -/
structure ScriptState where
  connection : Script
  project : Script
  openingOperation : Script
  openingError : Script
  taskGoal : Script
  streamId : Script
  lastSequence : Script

/-- The object of an `OpeningOperationState`. -/
def openingObject (requestId path status : Script) : Script :=
  .object [("requestId", requestId), ("path", path), ("status", status)]

namespace ScriptState

def initialState : ScriptState where
  connection := .object [("kind", .string "checking")]
  project := .null
  openingOperation := .null
  openingError := .null
  taskGoal := .string ""
  streamId := .null
  lastSequence := .number 0

/-- `APPLY_SNAPSHOT` -/
def applySnapshot (state : ScriptState) (snapshot : Script) : ScriptState :=
  let activeOpen := match snapshot.prop "activeOperations" with
    | .array items => items.find? fun op : Script => (op.prop "kind").isText "openProject"
    | _ => none
  { state with
    connection :=
      if (state.connection.prop "kind").isText "reconnecting" ||
          (state.connection.prop "kind").isText "checking" then
        .object [("kind", .string "ready")]
      else state.connection
    project := snapshot.prop "project"
    openingOperation := match activeOpen with
      | some op => openingObject (op.prop "requestId") (orText (state.openingOperation.prop "path") "")
          (orText (state.openingOperation.prop "status") "opening")
      | none => .null
    openingError := .null
    streamId := snapshot.prop "streamId"
    lastSequence := snapshot.prop "lastSequence" }

/-- `APPLY_EVENT` -/
def applyEvent (state : ScriptState) (event : Script) : ScriptState :=
  let payload := event.prop "payload"
  let next := match payload.prop "type" with
    | .string "operationStarted" =>
      if (payload.prop "kind").isText "openProject" then
        { state with
          openingOperation := openingObject (payload.prop "requestId")
            (orText (state.openingOperation.prop "path") "") (.string "opening") }
      else state
    | .string "projectOpened" =>
      { state with
        project := payload.prop "project"
        openingOperation := .null
        openingError := .null }
    | .string "operationCancelled" => { state with openingOperation := .null }
    | .string "operationFailed" =>
      { state with openingOperation := .null, openingError := payload.prop "message" }
    | _ => state
  { next with streamId := event.prop "streamId", lastSequence := event.prop "sequence" }

end ScriptState

/-- `workspaceReducer` -/
def scriptReducer (state : ScriptState) (action : Script) : ScriptState :=
  match action.prop "type" with
  | .string "SET_CONNECTION" => { state with connection := action.prop "connection" }
  | .string "APPLY_SNAPSHOT" => state.applySnapshot (action.prop "snapshot")
  | .string "APPLY_EVENT" => state.applyEvent (action.prop "event")
  | .string "START_OPENING" =>
    { state with
      openingOperation := openingObject (action.prop "requestId") (action.prop "path")
        (.string "opening")
      openingError := .null }
  | .string "PROJECT_OPENED" =>
    { state with
      project := action.prop "project"
      openingOperation := .null
      openingError := .null }
  | .string "OPENING_FAILED" =>
    { state with openingOperation := .null, openingError := action.prop "message" }
  | .string "SET_OPENING_STATUS" =>
    if !truthy state.openingOperation then state
    else
      { state with
        openingOperation := openingObject (state.openingOperation.prop "requestId")
          (state.openingOperation.prop "path") (action.prop "status") }
  | .string "SET_TASK_GOAL" => { state with taskGoal := action.prop "goal" }
  | .string "CLEAR_ERROR" => { state with openingError := .null }
  | _ => state

def setConnection (connection : Script) : Script :=
  .object [("type", .string "SET_CONNECTION"), ("connection", connection)]

def unavailable (message : Script) : Script :=
  setConnection (.object [("kind", .string "unavailable"), ("message", message)])

/-- What `handleStreamUpdate` dispatches for a message. -/
def messageDispatches (message : Script) : List Script :=
  setConnection (.object [("kind", .string "ready")]) ::
    if (message.prop "messageType").isText "snapshot" then
      [.object [("type", .string "APPLY_SNAPSHOT"), ("snapshot", message.prop "snapshot")]]
    else if (message.prop "messageType").isText "event" then
      [.object [("type", .string "APPLY_EVENT"), ("event", message.prop "event")]]
    else []

def handleStreamUpdate (update : Script) : List Script :=
  if hasProp "messageType" update then messageDispatches update
  else if (update.prop "type").isText "reconnecting" then
    [setConnection (.object [("kind", .string "reconnecting")])]
  else if (update.prop "type").isText "unavailable" then
    [unavailable (update.prop "message")]
  else if (update.prop "type").isText "message" then messageDispatches (update.prop "message")
  else []

/-- What happens to a mounted window: a value on the channel, a reply to `daemon_health` or to
`daemon_open_project`, a command that fails, and what its user does. `cancelOpening` is one of them
where it has seen an operation. -/
inductive Occurrence where
  | update (raw : Script)
  | health (reply : Script)
  | healthFails (message : String)
  | opened (reply : Script)
  | openFails (message : String)
  | start (requestId path : String)
  | cancel
  | setTaskGoal (goal : String)
  | clearError

def openingFailed (message : Script) : Script :=
  .object [("type", .string "OPENING_FAILED"), ("message", message)]

/-- The callback of `subscribeDaemonEvents`. -/
def updateDispatches (raw : Script) : List Script :=
  match onMessage raw with
  | some update => handleStreamUpdate update
  | none => []

/-- Behind `bridge.getHealth`. -/
def healthDispatch (numberText : Rat → String) (reply : Script) : Script :=
  match decodeHealthResponse reply with
  | .ok health => setConnection (.object [("kind", .string "ready"), ("health", health)])
  | .error thrown => unavailable (thrown.message numberText)

/-- Behind `bridge.openProject`. -/
def openedDispatch (numberText : Rat → String) (reply : Script) : Script :=
  match decodeProjectOpenResponse reply with
  | .ok result => .object [("type", .string "PROJECT_OPENED"), ("project", result.prop "project")]
  | .error thrown => openingFailed (thrown.message numberText)

/-- The actions that the hook dispatches. -/
def dispatched (numberText : Rat → String) : Occurrence → List Script
  | .update raw => updateDispatches raw
  | .health reply => [healthDispatch numberText reply]
  | .healthFails message => [unavailable (.string message)]
  | .opened reply => [openedDispatch numberText reply]
  | .openFails message => [openingFailed (.string message)]
  | .start requestId path =>
    [.object
      [("type", .string "START_OPENING"), ("requestId", .string requestId),
        ("path", .string path)]]
  | .cancel => [.object [("type", .string "SET_OPENING_STATUS"), ("status", .string "cancelling")]]
  | .setTaskGoal goal => [.object [("type", .string "SET_TASK_GOAL"), ("goal", .string goal)]]
  | .clearError => [.object [("type", .string "CLEAR_ERROR")]]

end Kesharon.Workspace

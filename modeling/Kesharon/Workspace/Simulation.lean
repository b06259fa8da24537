import Kesharon.Workspace.Untyped

namespace Kesharon.Workspace

open Framework Bridge Host Protocol Script

def statusText : OpeningStatus → String
  | .opening => "opening"
  | .cancelling => "cancelling"

/-- `kind` of a `ConnectionState`. -/
def connectionKind : ConnectionState → String
  | .checking => "checking"
  | .ready _ => "ready"
  | .reconnecting => "reconnecting"
  | .unavailable _ => "unavailable"

structure ShowsHealth (value : Script) (h : HealthSnapshot) : Prop where
  status : value.prop "status" = .string (healthLiteral h.status)
  protocolVersion : value.prop "protocolVersion" = .number (Rat.ofInt h.protocolVersion.toNat)

/-- The fields of a `ConnectionState` beside its kind. -/
inductive ShowsDetails (value : Script) : ConnectionState → Prop where
  | checking : ShowsDetails value .checking
  | ready (health : value.prop "health" = .undefined) : ShowsDetails value (.ready none)
  | healthy (h : HealthSnapshot) (health : ShowsHealth (value.prop "health") h) :
      ShowsDetails value (.ready (some h))
  | reconnecting : ShowsDetails value .reconnecting
  | unavailable (m : String) (message : value.prop "message" = .string m) :
      ShowsDetails value (.unavailable (some m))

structure ShowsConnection (value : Script) (c : ConnectionState) : Prop where
  kind : value.prop "kind" = .string (connectionKind c)
  details : ShowsDetails value c

structure ShowsOpening (value : Script) (o : OpeningOperationState) : Prop where
  record : value.isRecord = true
  requestId : value.prop "requestId" = .string o.requestId
  path : value.prop "path" = .string o.path
  status : value.prop "status" = .string (statusText o.status)

/-- The value is the text. -/
def IsText (value : Script) (text : String) : Prop := value = .string text

/-- Every field of the state holds a value of its type. -/
structure ShowsState (state : ScriptState) (w : WorkspaceState) : Prop where
  connection : ShowsConnection state.connection w.connection
  project : ShowsOption ShowsProject state.project w.project
  openingOperation : ShowsOption ShowsOpening state.openingOperation w.openingOperation
  openingError : ShowsOption IsText state.openingError w.openingError
  taskGoal : state.taskGoal = .string w.taskGoal
  streamId : ShowsOption IsText state.streamId w.streamId
  lastSequence : state.lastSequence = .number (Rat.ofInt w.lastSequence)

inductive ShowsAction (value : Script) : WorkspaceAction → Prop where
  | setConnection (c : ConnectionState) (type : value.prop "type" = .string "SET_CONNECTION")
      (connection : ShowsConnection (value.prop "connection") c) :
      ShowsAction value (.setConnection c)
  | applySnapshot (s : WorkspaceSnapshot) (type : value.prop "type" = .string "APPLY_SNAPSHOT")
      (snapshot : ShowsSnapshot (value.prop "snapshot") s) : ShowsAction value (.applySnapshot s)
  | applyEvent (e : DaemonEvent) (type : value.prop "type" = .string "APPLY_EVENT")
      (event : ShowsEvent (value.prop "event") e) : ShowsAction value (.applyEvent e)
  | startOpening (r p : String) (type : value.prop "type" = .string "START_OPENING")
      (requestId : value.prop "requestId" = .string r) (path : value.prop "path" = .string p) :
      ShowsAction value (.startOpening r p)
  | projectOpened (p : ProjectSnapshot) (type : value.prop "type" = .string "PROJECT_OPENED")
      (project : ShowsProject (value.prop "project") p) : ShowsAction value (.projectOpened p)
  | openingFailed (m : String) (type : value.prop "type" = .string "OPENING_FAILED")
      (message : value.prop "message" = .string m) : ShowsAction value (.openingFailed m)
  | setOpeningStatus (s : OpeningStatus)
      (type : value.prop "type" = .string "SET_OPENING_STATUS")
      (status : value.prop "status" = .string (statusText s)) :
      ShowsAction value (.setOpeningStatus s)
  | setTaskGoal (g : String) (type : value.prop "type" = .string "SET_TASK_GOAL")
      (goal : value.prop "goal" = .string g) : ShowsAction value (.setTaskGoal g)
  | clearError (type : value.prop "type" = .string "CLEAR_ERROR") : ShowsAction value .clearError

section Reducer

variable {state : ScriptState} {w : WorkspaceState} {value : Script}

theorem shows_initialState : ShowsState ScriptState.initialState initialState where
  connection := ⟨rfl, .checking⟩
  project := rfl
  openingOperation := rfl
  openingError := rfl
  taskGoal := rfl
  streamId := rfl
  lastSequence := rfl

theorem shows_opening (requestId path : String) (status : OpeningStatus) :
    ShowsOpening (openingObject (.string requestId) (.string path) (.string (statusText status)))
      ⟨requestId,path,status⟩ where
  record := rfl
  requestId := by simp [openingObject]
  path := by simp [openingObject]
  status := by simp [openingObject]

theorem orText_string (s : String) : orText (.string s) "" = .string s := by
  unfold orText truthy
  by_cases empty : s = ""
  · simp [empty]
  · simp [empty]

/-- `state.openingOperation?.path || ""` -/
theorem shows_openingPath
    (h : ShowsOption ShowsOpening state.openingOperation w.openingOperation) :
    orText (state.openingOperation.prop "path") "" = .string w.openingPath := by
  unfold WorkspaceState.openingPath
  cases present : w.openingOperation with
  | none =>
    rw [present] at h
    have null : state.openingOperation = .null := h
    rw [null]
    rfl
  | some operation =>
    rw [present] at h
    have shows : ShowsOpening state.openingOperation operation := h
    rw [shows.path, orText_string]

theorem orText_status (s : OpeningStatus) :
    orText (.string (statusText s)) "opening" = .string (statusText s) := by
  cases s <;> rfl

theorem shows_openingStatus
    (h : ShowsOption ShowsOpening state.openingOperation w.openingOperation) :
    orText (state.openingOperation.prop "status") "opening" =
      .string (statusText w.openingStatus) := by
  unfold WorkspaceState.openingStatus
  cases present : w.openingOperation with
  | none =>
    rw [present] at h
    have null : state.openingOperation = .null := h
    rw [null]
    rfl
  | some operation =>
    rw [present] at h
    have shows : ShowsOpening state.openingOperation operation := h
    rw [shows.status]
    exact orText_status operation.status

theorem find_shows {items : List Script} {os : List OperationSnapshot}
    (h : List.Forall₂ ShowsOperation items os) :
    Option.Rel ShowsOperation
      (items.find? fun op : Script => (op.prop "kind").isText "openProject")
      (os.find? fun op => op.kind = .openProject) := by
  cases h with
  | nil => exact .none
  | @cons item o items os first rest =>
    have kind : o.kind = .openProject := by cases o.kind; rfl
    have text : (item.prop "kind").isText "openProject" = true := by
      rw [first.kind, kind]
      rfl
    simp only [List.find?_cons, text, decide_true]
    exact .some first

theorem applySnapshot_shows (h : ShowsState state w) {s : WorkspaceSnapshot}
    (shows : ShowsSnapshot value s) :
    ShowsState (state.applySnapshot value) (w.applySnapshot s) := by
  obtain ⟨items, array, operations⟩ := shows.activeOperations
  have found := find_shows operations
  constructor
  · unfold ScriptState.applySnapshot WorkspaceState.applySnapshot
    have kind := h.connection.kind
    cases c : w.connection with
    | checking =>
      rw [c] at kind
      simp only [kind]
      exact ⟨by simp [connectionKind, isText], .ready (by simp [connectionKind, isText])⟩
    | reconnecting =>
      rw [c] at kind
      simp only [kind]
      exact ⟨by simp [connectionKind, isText], .ready (by simp [connectionKind, isText])⟩
    | ready health =>
      rw [c] at kind
      simp only [kind]
      simpa [connectionKind, isText, c] using h.connection
    | unavailable message =>
      rw [c] at kind
      simp only [kind]
      simpa [connectionKind, isText, c] using h.connection
  · exact shows.project
  · unfold ScriptState.applySnapshot WorkspaceState.applySnapshot
    dsimp only
    rw [array, shows_openingPath h.openingOperation, shows_openingStatus h.openingOperation]
    dsimp only
    revert found
    generalize (items.find? fun op : Script => (op.prop "kind").isText "openProject") = left
    generalize (s.activeOperations.find? fun op => op.kind = .openProject) = right
    intro found
    cases found with
    | none => rfl
    | some first =>
      dsimp only
      rw [first.requestId]
      exact shows_opening _ _ _
  · exact rfl
  · exact h.taskGoal
  · exact shows.streamId
  · exact shows.lastSequence

theorem applyEvent_shows (h : ShowsState state w) {e : DaemonEvent} (shows : ShowsEvent value e) :
    ShowsState (state.applyEvent value) (w.applyEvent e) := by
  have payload := shows.payload
  have path := shows_openingPath h.openingOperation
  unfold ScriptState.applyEvent WorkspaceState.applyEvent
  cases p : e.payload with
  | operationStarted r k =>
    rw [p] at payload
    cases payload with
    | operationStarted _ _ record type requestId kind =>
      cases k
      simp only [type, requestId, kind, path, kindLiteral, isText, decide_true, if_true]
      exact ⟨h.connection, h.project, shows_opening _ _ .opening, h.openingError, h.taskGoal,
        shows.streamId, shows.sequence⟩
  | projectOpened r project =>
    rw [p] at payload
    cases payload with
    | projectOpened _ _ record type requestId project =>
      simp only [type]
      exact ⟨h.connection, project, rfl, rfl, h.taskGoal, shows.streamId, shows.sequence⟩
  | operationCancelled r =>
    rw [p] at payload
    cases payload with
    | operationCancelled _ record type requestId =>
      simp only [type]
      exact ⟨h.connection, h.project, rfl, h.openingError, h.taskGoal, shows.streamId,
        shows.sequence⟩
  | operationFailed r c m =>
    rw [p] at payload
    cases payload with
    | operationFailed _ _ _ record type requestId code message =>
      simp only [type]
      exact ⟨h.connection, h.project, rfl, message, h.taskGoal, shows.streamId, shows.sequence⟩

/-- A dispatch of the untyped code is one of the typed model. -/
theorem scriptReducer_shows {action : WorkspaceAction} (h : ShowsState state w)
    (shows : ShowsAction value action) :
    ShowsState (scriptReducer state value) (workspaceReducer w action) := by
  unfold scriptReducer
  cases shows with
  | setConnection c type connection =>
    simp only [type]
    exact { h with connection := connection }
  | applySnapshot s type snapshot =>
    simp only [type]
    exact applySnapshot_shows h snapshot
  | applyEvent e type event =>
    simp only [type]
    exact applyEvent_shows h event
  | startOpening r p type requestId path =>
    simp only [type, requestId, path]
    exact { h with openingOperation := shows_opening _ _ .opening, openingError := rfl }
  | projectOpened p type project =>
    simp only [type]
    exact { h with project := project, openingOperation := rfl, openingError := rfl }
  | openingFailed m type message =>
    simp only [type]
    exact { h with openingOperation := rfl, openingError := message }
  | setOpeningStatus s type status =>
    simp only [type, status]
    unfold workspaceReducer
    have shown := h.openingOperation
    cases present : w.openingOperation with
    | none =>
      rw [present] at shown
      have null : state.openingOperation = .null := shown
      simp only [null, truthy]
      exact h
    | some operation =>
      rw [present] at shown
      have shows : ShowsOpening state.openingOperation operation := shown
      have some : truthy state.openingOperation = true := by
        obtain ⟨entries, object⟩ := isRecord_iff.mp shows.record
        rw [object]
        rfl
      simp only [some, shows.requestId, shows.path]
      exact { h with openingOperation := shows_opening _ _ _ }
  | setTaskGoal g type goal =>
    simp only [type]
    exact { h with taskGoal := goal }
  | clearError type =>
    simp only [type]
    exact { h with openingError := rfl }

/-- And so is a run of dispatches. -/
theorem foldl_shows {values : List Script} {actions : List WorkspaceAction} (h : ShowsState state w)
    (shows : List.Forall₂ ShowsAction values actions) :
    ShowsState (values.foldl scriptReducer state) (dispatchAll w actions) := by
  induction shows generalizing state w with
  | nil => exact h
  | cons first _ ih => exact ih (scriptReducer_shows h first)

end Reducer

/-- What is dispatched behind `bridge.getHealth`. -/
def healthAction (response : ServerResponse) : WorkspaceAction :=
  if response.protocolVersion ≠ Protocol.PROTOCOL_VERSION then
    .setConnection (.unavailable
      (some ("Unsupported protocol version " ++ toString response.protocolVersion.toNat)))
  else
    match response.result, response.error with
    | some (.health status version), none =>
      if version = Protocol.PROTOCOL_VERSION then .setConnection (.ready (some ⟨status,version⟩))
      else .setConnection (.unavailable (some "Malformed daemon response"))
    | none, some error => .setConnection (.unavailable (some error.message))
    | _, _ => .setConnection (.unavailable (some "Malformed daemon response"))

/-- What an occurrence is to the typed model. A value that shows nothing of the protocol is passed
over on the channel, and is reported as a failure where it is a reply. -/
inductive Means : Occurrence → List WorkspaceAction → Prop where
  | update {raw : Script} {u : DaemonStreamUpdate} (sound : Sound u) (shows : ShowsUpdate raw u) :
      Means (.update raw) (updateActions u)
  | ignored {raw : Script} (unknown : ¬ ∃ u, Sound u ∧ ShowsUpdate raw u) :
      Means (.update raw) []
  | health {reply : Script} {r : ServerResponse} (shows : ShowsResponse reply r) :
      Means (.health reply) [healthAction r]
  | illHealth {reply : Script} (unknown : ¬ ∃ r, ShowsResponse reply r) (message : String) :
      Means (.health reply) [.setConnection (.unavailable (some message))]
  | healthFails (message : String) :
      Means (.healthFails message) [.setConnection (.unavailable (some message))]
  | opened {reply : Script} {r : ServerResponse} (shows : ShowsResponse reply r) :
      Means (.opened reply) [openingAction r]
  | illOpened {reply : Script} (unknown : ¬ ∃ r, ShowsResponse reply r) (message : String) :
      Means (.opened reply) [.openingFailed message]
  | openFails (message : String) : Means (.openFails message) [.openingFailed message]
  | start (requestId path : String) :
      Means (.start requestId path) [.startOpening requestId path]
  | cancel : Means .cancel [.setOpeningStatus .cancelling]
  | setTaskGoal (goal : String) : Means (.setTaskGoal goal) [.setTaskGoal goal]
  | clearError : Means .clearError [.clearError]

section Dispatches

variable {numberText : Rat → String} {value : Script}

theorem shows_setConnection {c : ConnectionState} {connection : Script}
    (shows : ShowsConnection connection c) :
    ShowsAction (setConnection connection) (.setConnection c) :=
  .setConnection c (by simp [setConnection]) (by simpa [setConnection] using shows)

theorem shows_unavailable (m : String) :
    ShowsAction (unavailable (.string m)) (.setConnection (.unavailable (some m))) :=
  shows_setConnection ⟨by simp [connectionKind], .unavailable m (by simp)⟩

theorem shows_openingFailed (m : String) :
    ShowsAction (openingFailed (.string m)) (.openingFailed m) :=
  .openingFailed m (by simp [openingFailed]) (by simp [openingFailed])

theorem messageDispatches_shows {m : StreamMessage} (shows : ShowsMessage value m) :
    List.Forall₂ ShowsAction (messageDispatches value) (messageActions m) := by
  have ready : ShowsAction (setConnection (.object [("kind", .string "ready")]))
      (.setConnection (.ready none)) :=
    shows_setConnection ⟨by simp [connectionKind], .ready (by simp)⟩
  unfold messageDispatches messageActions
  cases shows with
  | snapshot s record messageType shows =>
    simp only [messageType, isText, decide_true, if_true]
    exact .cons ready (.cons (.applySnapshot s (by simp) (by simpa using shows)) .nil)
  | event e record messageType shows =>
    have other : isText "snapshot" (.string "event") = false := rfl
    rw [messageType, other]
    exact .cons ready (.cons (.applyEvent e (by simp) (by simpa using shows)) .nil)

/-- An update that the decoder has built is none of the direct messages. -/
theorem hasProp_built {raw : Script} (h : decodeDaemonStreamUpdate raw = .ok value) :
    hasProp "messageType" value = false := by
  unfold decodeDaemonStreamUpdate at h
  split_ifs at h
  · split at h
    · cases h
    · obtain rfl := Except.ok.inj h
      rfl
  · obtain rfl := Except.ok.inj h
    rfl
  · obtain rfl := Except.ok.inj h
    rfl

theorem handleStreamUpdate_shows {u : DaemonStreamUpdate}
    (built : hasProp "messageType" value = false) (shows : ShowsUpdate value u) :
    List.Forall₂ ShowsAction (handleStreamUpdate value) (updateActions u) := by
  unfold handleStreamUpdate
  rw [built, if_neg (by simp)]
  cases shows with
  | message m record type shows =>
    have one : isText "reconnecting" (.string "message") = false := rfl
    have other : isText "unavailable" (.string "message") = false := rfl
    rw [type, one, other]
    exact messageDispatches_shows shows
  | reconnecting record type =>
    rw [type]
    exact .cons (shows_setConnection ⟨by simp [connectionKind], .reconnecting⟩) .nil
  | unavailable m record type message =>
    have other : isText "reconnecting" (.string "unavailable") = false := rfl
    rw [type, other, message]
    exact .cons (shows_unavailable m) .nil

theorem update_means (raw : Script) :
    ∃ actions, Means (.update raw) actions ∧
      List.Forall₂ ShowsAction (updateDispatches raw) actions := by
  unfold updateDispatches onMessage
  cases decoded : decodeDaemonStreamUpdate raw with
  | error error =>
    refine ⟨[], .ignored ?_, .nil⟩
    intro known
    obtain ⟨u, sound, shows⟩ := known
    obtain ⟨built, ok⟩ := decodeDaemonStreamUpdate_of_shows sound shows
    rw [decoded] at ok
    cases ok
  | ok built =>
    obtain ⟨u, sound, shows, shows'⟩ := shows_of_decodeDaemonStreamUpdate decoded
    exact ⟨_, .update sound shows, handleStreamUpdate_shows (hasProp_built decoded) shows'⟩

/-- `String(version)` of a version that is not the current one. -/
def Decimal (numberText : Rat → String) : Prop :=
  ∀ version : UInt16, numberText (Rat.ofInt version.toNat) = toString version.toNat

/-- The text of the error with which a response that is not proper is refused. -/
theorem improper_message (decimal : Decimal numberText) (r : ServerResponse) :
    ProtocolDecodeError.message numberText
      (if r.protocolVersion = Protocol.PROTOCOL_VERSION then .malformedResponse
      else .unsupportedVersion (some (Rat.ofInt r.protocolVersion.toNat))) =
      if r.protocolVersion = Protocol.PROTOCOL_VERSION then "Malformed daemon response"
      else "Unsupported protocol version " ++ toString r.protocolVersion.toNat := by
  split_ifs with version
  · rfl
  · unfold ProtocolDecodeError.message
    dsimp only
    rw [decimal]

theorem openingAction_improper {r : ServerResponse} (improper : ¬ Proper r) :
    openingAction r = .openingFailed
      (if r.protocolVersion = Protocol.PROTOCOL_VERSION then "Malformed daemon response"
      else "Unsupported protocol version " ++ toString r.protocolVersion.toNat) := by
  unfold openingAction
  by_cases version : r.protocolVersion = Protocol.PROTOCOL_VERSION
  · rw [if_neg (not_not.mpr version), if_pos version]
    obtain ⟨protocolVersion, requestId, result, error⟩ := r
    obtain rfl : protocolVersion = Protocol.PROTOCOL_VERSION := version
    dsimp only
    split
    next project =>
      exact absurd (@Proper.success requestId (.projectOpened project) trivial) improper
    next e => exact absurd (.failure requestId e.code e.message) improper
    · rfl
  · rw [if_pos version, if_neg version]

theorem healthAction_improper {r : ServerResponse} (improper : ¬ Proper r) :
    healthAction r = .setConnection (.unavailable (some
      (if r.protocolVersion = Protocol.PROTOCOL_VERSION then "Malformed daemon response"
      else "Unsupported protocol version " ++ toString r.protocolVersion.toNat))) := by
  unfold healthAction
  by_cases version : r.protocolVersion = Protocol.PROTOCOL_VERSION
  · rw [if_neg (not_not.mpr version), if_pos version]
    obtain ⟨protocolVersion, requestId, result, error⟩ := r
    obtain rfl : protocolVersion = Protocol.PROTOCOL_VERSION := version
    dsimp only
    split
    next status version =>
      split_ifs with current
      · exact absurd (@Proper.success requestId (.health status version) current) improper
      · rfl
    next e => exact absurd (.failure requestId e.code e.message) improper
    · rfl
  · rw [if_pos version, if_neg version]

theorem openedDispatch_shows (decimal : Decimal numberText) {reply : Script} {r : ServerResponse}
    (shows : ShowsResponse reply r) :
    ShowsAction (openedDispatch numberText reply) (openingAction r) := by
  unfold openedDispatch decodeProjectOpenResponse
  by_cases proper : Proper r
  · cases proper with
    | @success requestId result current =>
      rw [decodeResult_success current shows]
      cases result with
      | projectOpened project =>
        have shown : ShowsResult (reply.prop "result") (.projectOpened project) := shows.result
        cases shown with
        | projectOpened _ record type project' =>
          have tag : resultType (.projectOpened project) = "projectOpened" := rfl
          rw [if_pos tag]
          exact .projectOpened project (by simp) (by simpa using project')
      | _ => exact shows_openingFailed _
    | failure requestId code message =>
      rw [decodeResult_failure shows]
      exact shows_openingFailed message
  · rw [decodeResult_refused (decodeDaemonResponse_improper shows proper),
      openingAction_improper proper, ← improper_message decimal r]
    exact shows_openingFailed _

theorem healthDispatch_shows (decimal : Decimal numberText) {reply : Script} {r : ServerResponse}
    (shows : ShowsResponse reply r) :
    ShowsAction (healthDispatch numberText reply) (healthAction r) := by
  unfold healthDispatch decodeHealthResponse
  by_cases proper : Proper r
  · cases proper with
    | @success requestId result current =>
      rw [decodeResult_success current shows]
      cases result with
      | health status version =>
        have shown : ShowsResult (reply.prop "result") (.health status version) := shows.result
        have ready : healthAction (.success requestId (.health status version)) =
            .setConnection (.ready (some ⟨status,version⟩)) := by
          unfold healthAction
          rw [if_neg (by simp [ServerResponse.success])]
          exact if_pos current
        cases shown with
        | health _ _ record type health protocolVersion =>
          have tag : resultType (.health status version) = "health" := rfl
          rw [if_pos tag, ready]
          exact shows_setConnection ⟨by simp [connectionKind],
            .healthy _ ⟨by simpa using health, by simpa using protocolVersion⟩⟩
      | _ => exact shows_unavailable _
    | failure requestId code message =>
      rw [decodeResult_failure shows]
      exact shows_unavailable message
  · rw [decodeResult_refused (decodeDaemonResponse_improper shows proper),
      healthAction_improper proper, ← improper_message decimal r]
    exact shows_unavailable _

/-- A reply that is no response is refused. -/
theorem decodeResult_unknown {reply : Script} (unknown : ¬ ∃ r, ShowsResponse reply r)
    (tag : String) (fields : List String) :
    ∃ error, decodeResult tag fields reply = .error (.decode error) := by
  cases decoded : decodeDaemonResponse reply with
  | error error => exact ⟨error, decodeResult_refused decoded⟩
  | ok accepted =>
    obtain ⟨_, r, proper, shows⟩ := shows_of_decodeDaemonResponse decoded
    exact absurd ⟨r, shows⟩ unknown

/-- Every occurrence means something to the typed model, and that is what is dispatched. -/
theorem dispatched_means (decimal : Decimal numberText) (occurrence : Occurrence) :
    ∃ actions, Means occurrence actions ∧
      List.Forall₂ ShowsAction (dispatched numberText occurrence) actions := by
  cases occurrence with
  | update raw => exact update_means raw
  | health reply =>
    by_cases known : ∃ r, ShowsResponse reply r
    · obtain ⟨r, shows⟩ := known
      exact ⟨_, .health shows, .cons (healthDispatch_shows decimal shows) .nil⟩
    · obtain ⟨error, refused⟩ := decodeResult_unknown known "health" ["status","protocolVersion"]
      refine ⟨_, .illHealth known (error.message numberText), .cons ?_ .nil⟩
      unfold healthDispatch decodeHealthResponse
      rw [refused]
      exact shows_unavailable _
  | healthFails message => exact ⟨_, .healthFails message, .cons (shows_unavailable message) .nil⟩
  | opened reply =>
    by_cases known : ∃ r, ShowsResponse reply r
    · obtain ⟨r, shows⟩ := known
      exact ⟨_, .opened shows, .cons (openedDispatch_shows decimal shows) .nil⟩
    · obtain ⟨error, refused⟩ := decodeResult_unknown known "projectOpened" ["project"]
      refine ⟨_, .illOpened known (error.message numberText), .cons ?_ .nil⟩
      unfold openedDispatch decodeProjectOpenResponse
      rw [refused]
      exact shows_openingFailed _
  | openFails message => exact ⟨_, .openFails message, .cons (shows_openingFailed message) .nil⟩
  | start requestId path =>
    exact ⟨_, .start requestId path,
      .cons (.startOpening requestId path (by simp) (by simp) (by simp)) .nil⟩
  | cancel =>
    exact ⟨_, .cancel,
      .cons (.setOpeningStatus .cancelling (by simp) (by simp [statusText])) .nil⟩
  | setTaskGoal goal =>
    exact ⟨_, .setTaskGoal goal, .cons (.setTaskGoal goal (by simp) (by simp)) .nil⟩
  | clearError => exact ⟨_, .clearError, .cons (.clearError (by simp)) .nil⟩

theorem dispatched_all_mean (decimal : Decimal numberText) (occurrences : List Occurrence) :
    ∃ actions, List.Forall₂ Means occurrences actions ∧
      List.Forall₂ ShowsAction (occurrences.flatMap (dispatched numberText)) actions.flatten := by
  induction occurrences with
  | nil => exact ⟨[], .nil, .nil⟩
  | cons occurrence occurrences ih =>
    obtain ⟨first, means, shows⟩ := dispatched_means decimal occurrence
    obtain ⟨rest, mean, show'⟩ := ih
    refine ⟨first :: rest, .cons means mean, ?_⟩
    rw [List.flatMap_cons, List.flatten_cons]
    exact List.rel_append shows show'

end Dispatches

/-- Whatever values come in on the channel and as replies, the state of the untyped code is one of
the typed model: the one that it comes to by what the values mean. -/
theorem window_simulates {numberText : Rat → String} (decimal : Decimal numberText)
    (occurrences : List Occurrence) :
    ∃ actions, List.Forall₂ Means occurrences actions ∧
      ShowsState
        ((occurrences.flatMap (dispatched numberText)).foldl scriptReducer
          ScriptState.initialState)
        (dispatchAll initialState actions.flatten) := by
  obtain ⟨actions, mean, shows⟩ := dispatched_all_mean decimal occurrences
  exact ⟨actions, mean, foldl_shows shows_initialState shows⟩

/-- An open that the daemon has begun is answered, behind a value that is none of the protocol. -/
def answeredOpen : List Occurrence :=
  [.start "req-client-open-7" "/work/kesharon",
    .update (.object [("type", .string "message"), ("message", .null)]),
    .update (ofJson (fun _ => 0) (DaemonStreamUpdate.toJson
      (.message (.event ⟨1,"stream",1,.operationStarted "request" .openProject⟩)))),
    .opened (ofJson (fun _ => 0) (serialize
      (ServerResponse.failure "request" .notGitRepository "No repository")))]

theorem window_simulates_again :
    ∃ actions, List.Forall₂ Means answeredOpen actions ∧
      ShowsState
        ((answeredOpen.flatMap (dispatched fun x => toString x.num)).foldl scriptReducer
          ScriptState.initialState)
        (dispatchAll initialState actions.flatten) :=
  window_simulates (fun _ => rfl) answeredOpen

end Kesharon.Workspace

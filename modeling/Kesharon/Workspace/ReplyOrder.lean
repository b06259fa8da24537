import Kesharon.Framework.Shuffle
import Kesharon.Daemon.Replies
import Kesharon.Workspace.Tracking
import Kesharon.Workspace.Window

namespace Kesharon.Workspace

open Framework Application Daemon Protocol

/-- The reply of an open that ends with this event, as `chooseAndOpen` dispatches it. -/
inductive Answers (requestId : String) : DaemonEventPayload → WorkspaceAction → Prop where
  | opened (project : ProjectSnapshot) :
      Answers requestId (.projectOpened requestId project) (.projectOpened project)
  | failed (code : ErrorCode) (message : String) :
      Answers requestId (.operationFailed requestId code message) (.openingFailed message)
  | cancelled (message : String) :
      Answers requestId (.operationCancelled requestId) (.openingFailed message)

theorem answers_of_verdict {requestId : String} {result : Except ApplicationError Domain.Project}
    {response : ServerResponse} {payload : DaemonEventPayload}
    (verdict : Verdict requestId result response payload) :
    Answers requestId payload (openingAction response) := by
  cases verdict with
  | opened project => exact .opened _
  | cancelled => exact .cancelled _
  | failed error => exact .failed _ _

namespace WorkspaceAction

/-- What may be dispatched beside the events and the reply of an open. -/
def isBeside : WorkspaceAction → Bool
  | .setConnection _ | .setTaskGoal _ | .setOpeningStatus _ => true
  | _ => false

/-- An event, or a reply to an open. -/
def isOfOpen : WorkspaceAction → Bool
  | .applyEvent _ | .projectOpened _ | .openingFailed _ => true
  | _ => false

/-- The error that an open leaves behind. -/
def error : WorkspaceAction → Option String
  | .openingFailed message => some message
  | _ => none

end WorkspaceAction

/-- A state without its card. -/
def core (state : WorkspaceState) : WorkspaceState := { state with openingOperation := none }

def act (state : WorkspaceState) (action : WorkspaceAction) : WorkspaceState :=
  core (workspaceReducer state action)

theorem dispatchAll_append (state : WorkspaceState) (xs ys : List WorkspaceAction) :
    dispatchAll state (xs ++ ys) = dispatchAll (dispatchAll state xs) ys :=
  List.foldl_append

/-- What an action does to the rest does not depend on the card. -/
theorem act_core (state : WorkspaceState) (action : WorkspaceAction) :
    act (core state) action = core (workspaceReducer state action) := by
  cases action with
  | applyEvent event =>
    obtain ⟨version, streamId, sequence, payload⟩ := event
    cases payload with
    | operationStarted requestId kind => cases kind; rfl
    | _ => rfl
  | setOpeningStatus status =>
    obtain ⟨connection, project, operation, error, goal, streamId, sequence⟩ := state
    cases operation with
    | none => rfl
    | some operation => rfl
  | _ => rfl

theorem core_dispatchAll (state : WorkspaceState) (actions : List WorkspaceAction) :
    core (dispatchAll state actions) = actions.foldl act (core state) := by
  induction actions generalizing state with
  | nil => rfl
  | cons action rest ih =>
    have first := act_core state action
    rw [List.foldl_cons, first]
    exact ih (workspaceReducer state action)

theorem act_setOpeningStatus (state : WorkspaceState) (status : OpeningStatus) :
    act state (.setOpeningStatus status) = core state := by
  obtain ⟨connection, project, operation, error, goal, streamId, sequence⟩ := state
  cases operation with
  | none => rfl
  | some operation => rfl

/-- What an open dispatches neither reads nor writes the connection and the goal. -/
theorem reducer_frame (state : WorkspaceState) (connection : ConnectionState) (goal : String)
    {a : WorkspaceAction} (ofOpen : a.isOfOpen = true) :
    workspaceReducer { state with connection := connection, taskGoal := goal } a =
      { workspaceReducer state a with connection := connection, taskGoal := goal } := by
  cases a with
  | applyEvent event =>
    obtain ⟨version, streamId, sequence, payload⟩ := event
    cases payload with
    | operationStarted requestId kind => cases kind; rfl
    | _ => rfl
  | projectOpened project => rfl
  | openingFailed message => rfl
  | _ => cases ofOpen

theorem reducer_keeps (state : WorkspaceState) {a : WorkspaceAction} (ofOpen : a.isOfOpen = true) :
    (workspaceReducer state a).connection = state.connection ∧
      (workspaceReducer state a).taskGoal = state.taskGoal := by
  have frame := reducer_frame state state.connection state.taskGoal ofOpen
  exact ⟨congrArg (fun s => s.connection) frame, congrArg (fun s => s.taskGoal) frame⟩

theorem act_beside (state : WorkspaceState) {a b : WorkspaceAction} (beside : a.isBeside = true)
    (ofOpen : b.isOfOpen = true) : act (act state a) b = act (act state b) a := by
  obtain ⟨connection, goal⟩ := reducer_keeps (core state) ofOpen
  have same : act state b = core (workspaceReducer (core state) b) := (act_core state b).symm
  cases a with
  | setOpeningStatus status =>
    rw [act_setOpeningStatus, act_setOpeningStatus, act_core]
    rfl
  | setConnection connection =>
    have frame := reducer_frame (core state) connection (core state).taskGoal ofOpen
    rw [same]
    change core (workspaceReducer { core state with connection := connection } b) =
      { core (workspaceReducer (core state) b) with connection := connection }
    rw [frame, ← goal]
    rfl
  | setTaskGoal goal =>
    have frame := reducer_frame (core state) (core state).connection goal ofOpen
    rw [same]
    change core (workspaceReducer { core state with taskGoal := goal } b) =
      { core (workspaceReducer (core state) b) with taskGoal := goal }
    rw [frame, ← connection]
    rfl
  | _ => cases beside

theorem beside_keeps_card (state : WorkspaceState) {a : WorkspaceAction}
    (beside : a.isBeside = true) (none : state.openingOperation = none) :
    (workspaceReducer state a).openingOperation = .none := by
  cases a with
  | setConnection connection => exact none
  | setTaskGoal goal => exact none
  | setOpeningStatus status =>
    simp only [workspaceReducer, none]
  | _ => cases beside

theorem beside_keeps_project (state : WorkspaceState) {a : WorkspaceAction}
    (beside : a.isBeside = true) : (workspaceReducer state a).project = state.project := by
  cases a with
  | setConnection connection => rfl
  | setTaskGoal goal => rfl
  | setOpeningStatus status =>
    cases shown : state.openingOperation with
    | none => simp only [workspaceReducer, shown]
    | some operation => simp only [workspaceReducer, shown]
  | _ => cases beside

section Order

variable {requestId : String} {started ended event : DaemonEvent} {reply action : WorkspaceAction}
variable {side ws actions : List WorkspaceAction}

theorem act_started (state : WorkspaceState)
    (starts : started.payload = .operationStarted requestId .openProject) :
    act state (.applyEvent started) =
      { core state with
        streamId := some started.streamId
        lastSequence := started.sequence.toNat } := by
  obtain ⟨version, streamId, sequence, payload⟩ := started
  obtain rfl := starts
  rfl

/-- The event at the end and the reply say the same of the project and of the error. -/
theorem act_ended_reply (state : WorkspaceState) (answers : Answers requestId ended.payload reply) :
    act (act state (.applyEvent ended)) reply =
      { core state with
        project := projectAfter ended state.project
        openingError := reply.error
        streamId := some ended.streamId
        lastSequence := ended.sequence.toNat } := by
  obtain ⟨version, streamId, sequence, payload⟩ := ended
  cases answers with
  | opened project => rfl
  | failed code message => rfl
  | cancelled message => rfl

theorem act_reply_ended (state : WorkspaceState) (answers : Answers requestId ended.payload reply) :
    act (act state (.applyEvent ended)) reply = act (act state reply) (.applyEvent ended) := by
  obtain ⟨version, streamId, sequence, payload⟩ := ended
  cases answers with
  | opened project => rfl
  | failed code message => rfl
  | cancelled message => rfl

theorem act_reply_started (state : WorkspaceState)
    (starts : started.payload = .operationStarted requestId .openProject)
    (answers : Answers requestId ended.payload reply) :
    act (act state (.applyEvent started)) reply = act (act state reply) (.applyEvent started) := by
  rw [act_started _ starts, act_started _ starts]
  generalize ended.payload = payload at answers
  cases answers with
  | opened project => rfl
  | failed code message => rfl
  | cancelled message => rfl

theorem terminal_of_answers (answers : Answers requestId ended.payload reply) :
    ended.payload.isStarted = false := by
  generalize ended.payload = payload at answers
  cases answers with
  | opened project => rfl
  | failed code message => rfl
  | cancelled message => rfl

theorem reply_takes_card (s : WorkspaceState) (answers : Answers requestId ended.payload reply) :
    (workspaceReducer s reply).openingOperation = none := by
  generalize ended.payload = payload at answers
  cases answers with
  | opened project => rfl
  | failed code message => rfl
  | cancelled message => rfl

theorem isOfOpen_of_answers (answers : Answers requestId ended.payload reply) :
    reply.isOfOpen = true := by
  generalize ended.payload = payload at answers
  cases answers with
  | opened project => rfl
  | failed code message => rfl
  | cancelled message => rfl

/-- Up to the card, the reply and what is dispatched beside may as well come last. -/
theorem core_merged (s : WorkspaceState)
    (starts : started.payload = .operationStarted requestId .openProject)
    (answers : Answers requestId ended.payload reply)
    (beside : ∀ action ∈ side, action.isBeside = true)
    (replied : Merge [.applyEvent started,.applyEvent ended] [reply] ws)
    (merged : Merge ws side actions) :
    core (dispatchAll s actions) =
      { core (dispatchAll s side) with
        project := projectAfter ended (dispatchAll s side).project
        openingError := reply.error
        streamId := some ended.streamId
        lastSequence := ended.sequence.toNat } := by
  have ofOpen : ∀ action ∈ ws, action.isOfOpen = true := by
    intro action among
    rcases replied.mem_iff.mp among with event | answer
    · simp only [List.mem_cons, List.not_mem_nil, or_false] at event
      rcases event with rfl | rfl
      · rfl
      · rfl
    · obtain rfl := List.mem_singleton.mp answer
      exact isOfOpen_of_answers answers
  have aside := merged.symm.foldl_eq
    (fun a ha b hb s => act_beside s (beside a ha) (ofOpen b hb)) (core s)
  have behind := replied.foldl_eq (f := act) (by
    intro event among action answer s
    obtain rfl := List.mem_singleton.mp answer
    simp only [List.mem_cons, List.not_mem_nil, or_false] at among
    rcases among with rfl | rfl
    · exact act_reply_started s starts answers
    · exact act_reply_ended s answers) (side.foldl act (core s))
  rw [core_dispatchAll, aside, List.foldl_append, behind, ← core_dispatchAll]
  change act (act (act (core (dispatchAll s side)) (.applyEvent started)) (.applyEvent ended)) reply
    = _
  rw [act_started _ starts, act_ended_reply _ answers]
  rfl

/-- Behind the event at the end, the card is gone. -/
theorem merged_card (s : WorkspaceState) (answers : Answers requestId ended.payload reply)
    (beside : ∀ action ∈ side, action.isBeside = true)
    (replied : Merge [.applyEvent started,.applyEvent ended] [reply] ws)
    (merged : Merge ws side actions) : (dispatchAll s actions).openingOperation = none := by
  have replied : Merge ([.applyEvent started] ++ .applyEvent ended :: []) [reply] ws := replied
  obtain ⟨ws₁, ws₂, replies₁, replies₂, rfl, replies, -, later⟩ := replied.cut
  obtain ⟨actions₁, actions₂, side₁, side₂, rfl, rfl, -, rest⟩ := merged.cut
  have card : ((dispatchAll s actions₁).applyEvent ended).openingOperation = none := by
    rw [applyEvent_openingOperation, terminal_of_answers answers]
    rfl
  rw [dispatchAll_append]
  change (actions₂.foldl workspaceReducer ((dispatchAll s actions₁).applyEvent ended)).openingOperation
    = none
  apply List.foldlRecOn (motive := fun state => state.openingOperation = none) actions₂
    workspaceReducer card
  intro state none action among
  rcases rest.mem_iff.mp among with event | aside
  · have answer : action ∈ [reply] := by
      rw [replies]
      exact List.mem_append_right _ ((later.mem_iff.mp event).resolve_left List.not_mem_nil)
    obtain rfl := List.mem_singleton.mp answer
    exact reply_takes_card state answers
  · exact beside_keeps_card state (beside action (List.mem_append_right _ aside)) none

theorem side_keeps_project (s : WorkspaceState) (beside : ∀ action ∈ side, action.isBeside = true) :
    (dispatchAll s side).project = s.project := by
  apply List.foldlRecOn (motive := fun state => state.project = s.project) side workspaceReducer rfl
  intro state same action among
  exact (beside_keeps_project state (beside action among)).trans same

/-- However the reply to an open comes among its events, and whatever else is dispatched beside
them, it ends in the same state. -/
theorem reply_order_irrelevant (s : WorkspaceState)
    (starts : started.payload = .operationStarted requestId .openProject)
    (answers : Answers requestId ended.payload reply)
    (beside : ∀ action ∈ side, action.isBeside = true)
    (replied : Merge [.applyEvent started,.applyEvent ended] [reply] ws)
    (merged : Merge ws side actions) :
    dispatchAll s actions =
      { connection := (dispatchAll s side).connection
        project := projectAfter ended s.project
        openingOperation := none
        openingError := reply.error
        taskGoal := (dispatchAll s side).taskGoal
        streamId := some ended.streamId
        lastSequence := ended.sequence.toNat } := by
  have rest := core_merged s starts answers beside replied merged
  have card := merged_card s answers beside replied merged
  have project := side_keeps_project s beside
  have whole : dispatchAll s actions = core (dispatchAll s actions) := by
    unfold core
    rw [← card]
  rw [whole, rest, project]
  rfl

end Order

/-- The reply of an open that is being cancelled overtakes both events. -/
theorem reply_order_irrelevant_overtaking :
    dispatchAll (workspaceReducer initialState (.startOpening "req-client-open-7" "/p"))
      [.setOpeningStatus .cancelling,
       .projectOpened ⟨"i","p","/p",false⟩,
       .applyEvent ⟨PROTOCOL_VERSION,"s",1,.operationStarted "a" .openProject⟩,
       .setTaskGoal "g",
       .applyEvent ⟨PROTOCOL_VERSION,"s",2,.projectOpened "a" ⟨"i","p","/p",false⟩⟩] =
      ⟨.checking,some ⟨"i","p","/p",false⟩,none,none,"g",some "s",2⟩ := by
  have replied : @Merge WorkspaceAction
      [.applyEvent ⟨PROTOCOL_VERSION,"s",1,.operationStarted "a" .openProject⟩,
       .applyEvent ⟨PROTOCOL_VERSION,"s",2,.projectOpened "a" ⟨"i","p","/p",false⟩⟩]
      [.projectOpened ⟨"i","p","/p",false⟩] _ := .right _ (.left _ (.left _ .nil))
  have beside : ∀ action ∈ [WorkspaceAction.setOpeningStatus .cancelling,.setTaskGoal "g"],
      action.isBeside = true := by decide
  exact reply_order_irrelevant _ rfl (.opened _) beside replied
    (.right _ (.left _ (.left _ (.right _ (.left _ .nil)))))

section Session

variable {σ : Type} [StateRepository σ] {streamId : String} {w w' : World σ} {o : Output}
variable {flag : FlagId} {started ended : DaemonEvent} {side : List WorkspaceAction}

/-- The session replies to an open according to the event that it emits. -/
theorem settle_answers {requestId : String} {result : Except ApplicationError Domain.Project}
    (emits : (w.settle streamId requestId result).1.events = [ended]) :
    Answers requestId ended.payload
      (openingAction (w.settle streamId requestId result).1.response) := by
  have said := World.settle_said streamId w requestId result
  rw [emits] at said
  generalize (w.settle streamId requestId result).1.response = response at said ⊢
  cases said with
  | said sequence verdict next => exact answers_of_verdict verdict

theorem finish_replies (step : w.step streamId (.finish flag) = some (w', o))
    (emits : o.events = [ended]) : ∃ requestId response, o.response = some response ∧
      Answers requestId ended.payload (openingAction response) := by
  obtain ⟨call, result, _, _, finish⟩ := World.step_finish step
  unfold World.finishOpen at finish
  split_ifs at finish with poisoned
  · obtain ⟨_, rfl⟩ := Prod.mk.inj finish
    cases emits
  · obtain ⟨_, rfl⟩ := Prod.mk.inj finish
    exact ⟨call.request.requestId, _, rfl, settle_answers emits⟩

/-- Behind the events of an open that a session has finished and its reply, in whatever order, the
window has the session's project, and no card. -/
theorem finish_order_irrelevant (s : WorkspaceState) (same : s.project = w.state.project)
    (step : w.step streamId (.finish flag) = some (w', o)) (emits : o.events = [ended])
    (beside : ∀ action ∈ side, action.isBeside = true) :
    ∃ requestId response, o.response = some response ∧ ∀ ws actions,
      started.payload = .operationStarted requestId .openProject →
      Merge [.applyEvent started,.applyEvent ended] [openingAction response] ws →
      Merge ws side actions →
      (dispatchAll s actions).project = w'.state.project ∧
        (dispatchAll s actions).openingOperation = none := by
  obtain ⟨requestId, response, replies, answers⟩ := finish_replies step emits
  refine ⟨requestId, response, replies, ?_⟩
  intro ws actions starts replied merged
  have project := step_project same step
  rw [emits, applyEvents_singleton, applyEvent_project] at project
  have rest := congrArg WorkspaceState.project (core_merged s starts answers beside replied merged)
  refine ⟨?_, merged_card s answers beside replied merged⟩
  rw [← project, ← side_keeps_project s beside]
  exact rest

end Session

end Kesharon.Workspace

import Kesharon.Daemon.Session

namespace Kesharon.Daemon

open Framework Domain Protocol Application

/-- The steps of the threads around a session. A call of `open_project` is a `dispatch` that
begins it, the steps of its use case, and its `finish`. -/
inductive Action where
  | dispatch (request : ClientRequest)
  | firstCheck (call : FlagId)
  | inspectReturns (call : FlagId) (answer : Except ApplicationError RepositoryInspection)
  | secondCheck (call : FlagId) (nextId : String)
  | finish (call : FlagId)
  | subscribe
  | recv (channel : ChannelId)
  | hangUp (channel : ChannelId)
  | poisonState
  | poisonRepository

/-- What the environment sees of a step: the response a request gets, the events built, the
call of `remember_completed`, the project handed to `save_project`, what `subscribe` returns
and what a receiver obtains. -/
structure Output where
  response : Option ServerResponse := none
  events : List DaemonEvent := []
  remembered : Option Completion := none
  saved : Option Project := none
  subscribed : Option (Except SessionError (WorkspaceSnapshot × ChannelId)) := none
  received : Option (ChannelId × Received StreamMessage) := none

namespace World

variable {σ : Type}

def answer (w : World σ) (response : ServerResponse) : World σ × Output :=
  (w, { response := some response })

/-- A new flag, and the call's entries under its key and its request id. -/
def register (w : World σ) (requestId path key : String) : World σ :=
  { w with
    flags := Function.update w.flags w.flagCount false
    flagCount := w.flagCount + 1
    state := { w.state with
      inFlight := w.state.inFlight.insert key (.openProject path)
      active := w.state.active.insert requestId ⟨w.flagCount⟩ } }

/-- A call that has returned from its use case takes its entries back. -/
def remove (w : World σ) (flag : FlagId) (call : OpenCall) : World σ :=
  { w with
    opens := w.opens.erase flag
    state := { w.state with
      active := w.state.active.erase call.request.requestId
      inFlight := w.state.inFlight.erase call.key } }

/-- `open_project` up to the end of its first critical section. -/
def beginOpen (streamId : String) (w : World σ) (request : ClientRequest) (path : String) :
    World σ × Output :=
  match request.idempotencyKey with
  | none => w.answer (internalError request.requestId)
  | some key =>
    if w.statePoisoned then w.answer (internalError request.requestId)
    else
      match w.state.admit key (.openProject path) request.requestId with
      | some response => w.answer response
      | none =>
        if request.requestId ∈ w.state.active then
          w.answer (requestInProgress request.requestId)
        else
          let registered := w.register request.requestId path key
          match registered.emitLocked streamId (.operationStarted request.requestId .openProject) with
          | .error _ =>
            let undone : World σ :=
              { registered with
                state := { registered.state with
                  active := registered.state.active.erase request.requestId
                  inFlight := registered.state.inFlight.erase key } }
            undone.answer (internalError request.requestId)
          | .ok (w', event) =>
            ({ w' with
                opens := w'.opens.insert w.flagCount ⟨request,key,path,w.flagCount,.entered⟩ },
              { events := [event] })

/-- Set the flag of a running target; otherwise say whether it is known to have finished. -/
def cancelTarget (w : World σ) (targetRequestId : String) :
    (FlagId → Bool) × CancellationOutcome :=
  match w.state.active.lookup targetRequestId with
  | some operation => (Function.update w.flags operation.cancellation true, .accepted)
  | none =>
    if targetRequestId ∈ w.state.completedRequests then (w.flags, .alreadyFinished)
    else (w.flags, .notFound)

/-- `cancel`, one critical section. -/
def cancel (w : World σ) (request : ClientRequest) (targetRequestId : String) :
    World σ × Output :=
  match request.idempotencyKey with
  | none => w.answer (internalError request.requestId)
  | some key =>
    if w.statePoisoned then w.answer (internalError request.requestId)
    else
      match w.state.admit key (.cancelRequest targetRequestId) request.requestId with
      | some response => w.answer response
      | none =>
        let (flags, outcome) := w.cancelTarget targetRequestId
        let response :=
          ServerResponse.success request.requestId (.cancellation targetRequestId outcome)
        let completion : Completion :=
          ⟨key,.cancelRequest targetRequestId,request.requestId,response⟩
        ({ w with flags := flags, state := w.state.rememberCompleted completion },
          { response := some response, remembered := some completion })

def dispatch (streamId : String) (w : World σ) (request : ClientRequest) : World σ × Output :=
  match request.method with
  | .health => w.answer (.success request.requestId (.health .ready PROTOCOL_VERSION))
  | .openProject path => w.beginOpen streamId request path
  | .cancelRequest target => w.cancel request target
  | .subscribeEvents =>
    w.answer (.success request.requestId (.subscriptionReady streamId))

def setRepository (w : World σ) (repo : Option σ) : World σ := { w with stateRepository := repo }

/-- The arms of the match on the use case's result, under the lock. -/
def settle [StateRepository σ] (streamId : String) (w : World σ) (requestId : String) :
    Except ApplicationError Project → Settled σ × Option Project
  | .ok project =>
    match w.stateRepository with
    | some repo =>
      if w.repositoryPoisoned then (⟨w,internalError requestId,[]⟩, none)
      else
        match StateRepository.saveProject project repo with
        | (.ok (), repo') =>
          ((w.setRepository (some repo')).completeSuccess streamId requestId project,
            some project)
        | (.error e, repo') =>
          ((w.setRepository (some repo')).completeFailure streamId requestId e,
            some project)
    | none => (w.completeSuccess streamId requestId project, none)
  | .error .cancelled => (w.completeCancellation streamId requestId, none)
  | .error e => (w.completeFailure streamId requestId e, none)

/-- The second critical section of `open_project`. -/
def finishOpen [StateRepository σ] (streamId : String) (w : World σ) (flag : FlagId)
    (call : OpenCall) (result : Except ApplicationError Project) : World σ × Output :=
  if w.statePoisoned then
    ({ w with opens := w.opens.erase flag }).answer (internalError call.request.requestId)
  else
    let (settled, saved) := (w.remove flag call).settle streamId call.request.requestId result
    let completion : Completion :=
      ⟨call.key,call.fingerprint,call.request.requestId,settled.response⟩
    ({ settled.world with state := settled.world.state.rememberCompleted completion },
      { response := some settled.response
        events := settled.events
        remembered := some completion
        saved := saved })

def subscribe (streamId : String) (w : World σ) : World σ × Output :=
  if w.statePoisoned then (w, { subscribed := some (.error .stateUnavailable) })
  else
    let ch := w.channelCount
    let replaced : ChannelId → SyncChannel StreamMessage :=
      match w.state.subscriber with
      | none => w.channels
      | some old => Function.update w.channels old (w.channels old).dropSender
    ({ w with
        state := { w.state with subscriber := some ch }
        channels := Function.update replaced ch (.new SUBSCRIBER_CAPACITY)
        channelCount := ch + 1 },
      { subscribed := some (.ok (w.snapshotLocked streamId, ch)) })

/-- A call moves on inside its use case. -/
def advance (w : World σ) (flag : FlagId) (call : OpenCall) (execution : Execution) : World σ :=
  { w with opens := w.opens.insert flag { call with execution := execution } }

def step [StateRepository σ] (streamId : String) (w : World σ) :
    Action → Option (World σ × Output)
  | .dispatch request => some (w.dispatch streamId request)
  | .firstCheck flag =>
    match w.opens.lookup flag with
    | some call =>
      match call.execution with
      | .entered => some (w.advance flag call (.firstCheck (w.flags call.cancellation)), {})
      | _ => none
    | none => none
  | .inspectReturns flag answer =>
    match w.opens.lookup flag with
    | some call =>
      match call.execution with
      | .inspecting => some (w.advance flag call (.inspectReturns answer), {})
      | _ => none
    | none => none
  | .secondCheck flag nextId =>
    match w.opens.lookup flag with
    | some call =>
      match call.execution with
      | .inspected inspection =>
        some (w.advance flag call
          (.secondCheck inspection (w.flags call.cancellation) nextId false), {})
      | _ => none
    | none => none
  | .finish flag =>
    match w.opens.lookup flag with
    | some call =>
      match call.execution with
      | .returned result => some (w.finishOpen streamId flag call result)
      | _ => none
    | none => none
  | .subscribe => some (w.subscribe streamId)
  | .recv ch =>
    if ch < w.channelCount ∧ (w.channels ch).receiverAlive then
      (w.channels ch).recv.map fun r =>
        ({ w with channels := Function.update w.channels ch r.2 },
          { received := some (ch, r.1) })
    else none
  | .hangUp ch =>
    if ch < w.channelCount then
      some ({ w with channels := Function.update w.channels ch (w.channels ch).dropReceiver }, {})
    else none
  | .poisonState => some ({ w with statePoisoned := true }, {})
  | .poisonRepository => some ({ w with repositoryPoisoned := true }, {})

/-- A session before its first request. -/
def init (project : Option ProjectSnapshot) (activeTask : Option Task)
    (stateRepository : Option σ) : World σ where
  state := { SessionState.new with project := project, activeTask := activeTask }
  stateRepository := stateRepository
  flags := fun _ => false
  flagCount := 0
  channels := fun _ => ⟨SUBSCRIBER_CAPACITY,[],false,false⟩
  channelCount := 0
  opens := ∅
  statePoisoned := false
  repositoryPoisoned := false

/-- `DaemonSession::new` -/
def new : World σ := init none none none

/-- `DaemonSession::with_storage`; the flag says whether the store's lock is poisoned. -/
def withStorage [StateRepository σ] (stateRepository : Option (σ × Bool)) :
    Except ApplicationError (World σ) :=
  match stateRepository with
  | none => .ok (init none none none)
  | some (repo, poisoned) =>
    if poisoned then .error (.storage "State repository lock poisoned")
    else
      match SessionRecovery.execute repo with
      | (.error e, _) => .error e
      | (.ok recovered, repo) =>
        .ok (init (recovered.project.map snapshotOf) recovered.activeTask (some repo))

end World

section Runs

variable {σ : Type} [StateRepository σ]

def session (σ : Type) [StateRepository σ] (streamId : String) : Machine (World σ) Action Output :=
  ⟨World.step streamId⟩

/-- The sessions a run starts from. -/
inductive Started : World σ → Prop where
  | new : Started World.new
  | withStorage {repo : Option (σ × Bool)} {w : World σ} (h : World.withStorage repo = .ok w) :
      Started w

/-- No lock is poisoned and the event counter is below `u64::MAX`. -/
structure Healthy (w : World σ) : Prop where
  state_lock : w.statePoisoned = false
  repository_lock : w.repositoryPoisoned = false
  sequence_lt : w.state.sequence < u64Max

instance (w : World σ) : Decidable (Healthy w) :=
  decidable_of_iff (w.statePoisoned = false ∧ w.repositoryPoisoned = false ∧
    w.state.sequence < u64Max) ⟨fun h => ⟨h.1,h.2.1,h.2.2⟩, fun h => ⟨h.1,h.2,h.3⟩⟩

/-- Only states without a poisoned lock and below the counter's maximum are reached. -/
abbrev healthyStep (_ : World σ) (_ : Action) (w : World σ) : Prop := Healthy w

theorem Started.init {w : World σ} (h : Started w) :
    ∃ project task repo, w = World.init project task repo := by
  cases h with
  | new => exact ⟨none, none, none, rfl⟩
  | @withStorage repo _ h =>
    cases repo with
    | none => exact ⟨none, none, none, (Except.ok.inj h).symm⟩
    | some p =>
      obtain ⟨repo, poisoned⟩ := p
      simp only [World.withStorage] at h
      split_ifs at h
      cases hr : SessionRecovery.execute repo with
      | mk result repo' =>
        cases result with
        | error e => simp [hr] at h
        | ok recovered =>
          simp only [hr, Except.ok.injEq] at h
          exact ⟨_, _, _, h.symm⟩

omit [StateRepository σ] in
theorem init_healthy (project : Option ProjectSnapshot) (task : Option Task) (repo : Option σ) :
    Healthy (World.init project task repo) :=
  ⟨rfl, rfl, show (0 : UInt64) < u64Max by decide⟩

theorem Started.healthy {w : World σ} (h : Started w) : Healthy w := by
  obtain ⟨project, task, repo, rfl⟩ := h.init
  exact init_healthy project task repo

/-- Every state of a run is healthy. -/
theorem run_healthy {streamId : String} {w₀ w : World σ} {tr : List (Action × Output)}
    (h : (session σ streamId).Run healthyStep w₀ tr w) (start : Healthy w₀) : Healthy w :=
  h.invariant start (fun _ _ _ _ _ hok _ => hok)

end Runs

end Kesharon.Daemon

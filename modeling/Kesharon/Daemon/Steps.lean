import Kesharon.Daemon.SessionMachine

namespace Kesharon.Daemon

open Framework Domain Protocol Application

namespace World

variable {σ : Type}

/-- Count an event and offer it to the subscriber. -/
def emit (w : World σ) (event : DaemonEvent) : World σ :=
  ({ w with state := { w.state with sequence := event.sequence } }).deliver event

/-- Delivery touches the subscriber and the channels only. -/
theorem deliver_frame (w : World σ) (event : DaemonEvent) :
    ∃ subscriber channels, w.deliver event =
      { w with state := { w.state with subscriber := subscriber }, channels := channels } := by
  unfold deliver
  cases w.state.subscriber with
  | none => exact ⟨w.state.subscriber, w.channels, rfl⟩
  | some ch =>
    dsimp only
    cases (w.channels ch).trySend (.event event) with
    | ok c => exact ⟨w.state.subscriber, _, rfl⟩
    | error e => exact ⟨none, _, rfl⟩

theorem emit_frame (w : World σ) (event : DaemonEvent) :
    ∃ subscriber channels, w.emit event =
      { w with
        state := { w.state with sequence := event.sequence, subscriber := subscriber }
        channels := channels } := by
  obtain ⟨subscriber, channels, h⟩ := deliver_frame
    { w with state := { w.state with sequence := event.sequence } } event
  exact ⟨subscriber, channels, h⟩

/-- The event a session builds next. -/
structure IsNext (streamId : String) (w : World σ) (payload : DaemonEventPayload)
    (event : DaemonEvent) : Prop where
  version : event.protocolVersion = PROTOCOL_VERSION
  stream : event.streamId = streamId
  sequence : event.sequence.toNat = w.state.sequence.toNat + 1
  payload_eq : event.payload = payload

/-- Below the maximum an emission succeeds. -/
theorem emitLocked_of_lt (streamId : String) (w : World σ) (payload : DaemonEventPayload)
    (h : w.state.sequence < u64Max) :
    ∃ event, w.emitLocked streamId payload = .ok (w.emit event, event) ∧
      IsNext streamId w payload event := by
  obtain ⟨m, hm, hnat⟩ := checkedSucc_of_lt h
  have hz : m ≠ 0 := by
    intro he
    rw [he] at hnat
    simp at hnat
  refine ⟨⟨PROTOCOL_VERSION,streamId,m,payload⟩, ?_, rfl, rfl, hnat, rfl⟩
  simp [emitLocked, hm, DaemonEvent.new, hz, emit]

theorem emitAndRespond_of_lt (streamId : String) (w : World σ) (requestId : String)
    (payload : DaemonEventPayload) (after : World σ → World σ) (response : ServerResponse)
    (h : w.state.sequence < u64Max) :
    ∃ event, w.emitAndRespond streamId requestId payload after response =
      ⟨after (w.emit event),response,[event]⟩ ∧ IsNext streamId w payload event := by
  obtain ⟨event, he, hn⟩ := emitLocked_of_lt streamId w payload h
  exact ⟨event, by simp [emitAndRespond, he], hn⟩

/-- A mutation that passes admission has a key neither completed nor running. -/
theorem admit_none_iff (s : SessionState) (key : String) (fingerprint : MutationFingerprint)
    (requestId : String) :
    s.admit key fingerprint requestId = none ↔ key ∉ s.completed ∧ key ∉ s.inFlight := by
  rw [← AList.lookup_eq_none, ← AList.lookup_eq_none]
  unfold SessionState.admit
  cases hc : s.completed.lookup key with
  | some completed =>
    dsimp only
    split_ifs <;> simp
  | none =>
    cases hf : s.inFlight.lookup key with
    | some inFlight =>
      dsimp only
      split_ifs <;> simp
    | none => simp

/-- The state once a call has begun. -/
def begun (w : World σ) (request : ClientRequest) (path key : String) (event : DaemonEvent) :
    World σ :=
  let w' := (w.register request.requestId path key).emit event
  { w' with opens := w'.opens.insert w.flagCount ⟨request,key,path,w.flagCount,.entered⟩ }

/-- The state once a cancel request has been answered. -/
def cancelled (w : World σ) (target : String) (completion : Completion) : World σ :=
  { w with flags := (w.cancelTarget target).1, state := w.state.rememberCompleted completion }

/-- A call has taken its entries back, used the store and emitted its terminal event. -/
def settled (w : World σ) (flag : FlagId) (call : OpenCall) (repo : Option σ)
    (project : Option ProjectSnapshot) (event : DaemonEvent) : World σ :=
  let w' := ((w.remove flag call).setRepository repo).emit event
  { w' with state := { w'.state with project := project } }

/-- The state once a call has finished. -/
def finished (w : World σ) (flag : FlagId) (call : OpenCall) (repo : Option σ)
    (project : Option ProjectSnapshot) (event : DaemonEvent) (completion : Completion) :
    World σ :=
  let w' := w.settled flag call repo project event
  { w' with state := w'.state.rememberCompleted completion }

end World

/-- The four ways a finishing call ends: store and project afterwards, the terminal event, the
response and the project handed to the store. -/
inductive Settlement {σ : Type} [StateRepository σ] (w : World σ) (requestId : String) :
    Except ApplicationError Project → Option σ → Option ProjectSnapshot → DaemonEventPayload →
      ServerResponse → Option Project → Prop where
  | opened (p : Project) (noStore : w.stateRepository = none) :
      Settlement w requestId (.ok p) none (some (snapshotOf p))
        (.projectOpened requestId (snapshotOf p))
        (.success requestId (.projectOpened (snapshotOf p))) none
  | stored (p : Project) (repo repo' : σ) (store : w.stateRepository = some repo)
      (save : StateRepository.saveProject p repo = (.ok (), repo')) :
      Settlement w requestId (.ok p) (some repo') (some (snapshotOf p))
        (.projectOpened requestId (snapshotOf p))
        (.success requestId (.projectOpened (snapshotOf p))) (some p)
  | unsaved (p : Project) (e : ApplicationError) (repo repo' : σ)
      (store : w.stateRepository = some repo)
      (save : StateRepository.saveProject p repo = (.error e, repo')) :
      Settlement w requestId (.ok p) (some repo') w.state.project
        (.operationFailed requestId (classifyApplicationError e).1 (classifyApplicationError e).2)
        (.failure requestId (classifyApplicationError e).1 (classifyApplicationError e).2) (some p)
  | cancelled :
      Settlement w requestId (.error .cancelled) w.stateRepository w.state.project
        (.operationCancelled requestId)
        (.failure requestId .operationCancelled "Project opening was cancelled") none
  | failed (e : ApplicationError) (other : e ≠ .cancelled) :
      Settlement w requestId (.error e) w.stateRepository w.state.project
        (.operationFailed requestId (classifyApplicationError e).1 (classifyApplicationError e).2)
        (.failure requestId (classifyApplicationError e).1 (classifyApplicationError e).2) none

/-- The actions that move a call inside its use case, and where to. -/
inductive Moves {σ : Type} (w : World σ) (flag : FlagId) (call : OpenCall) :
    Action → Execution → Prop where
  | firstCheck (here : call.execution = .entered) :
      Moves w flag call (.firstCheck flag) (.firstCheck (w.flags call.cancellation))
  | inspectReturns (answer : Except ApplicationError RepositoryInspection)
      (here : call.execution = .inspecting) :
      Moves w flag call (.inspectReturns flag answer) (.inspectReturns answer)
  | secondCheck (inspection : RepositoryInspection) (nextId : String)
      (here : call.execution = .inspected inspection) :
      Moves w flag call (.secondCheck flag nextId)
        (.secondCheck inspection (w.flags call.cancellation) nextId false)

/-- What an action of a session runs, healthy or not. -/
inductive Stepped {σ : Type} [StateRepository σ] (streamId : String) (w : World σ) :
    Action → World σ → Output → Prop where
  | dispatched (request : ClientRequest) :
      Stepped streamId w (.dispatch request) (w.dispatch streamId request).1
        (w.dispatch streamId request).2
  | moved (a : Action) (flag : FlagId) (call : OpenCall) (execution : Execution)
      (running : w.opens.lookup flag = some call) (moves : Moves w flag call a execution) :
      Stepped streamId w a (w.advance flag call execution) {}
  | finished (flag : FlagId) (call : OpenCall) (result : Except ApplicationError Project)
      (running : w.opens.lookup flag = some call) (returned : call.execution = .returned result) :
      Stepped streamId w (.finish flag) (w.finishOpen streamId flag call result).1
        (w.finishOpen streamId flag call result).2
  | subscribed :
      Stepped streamId w .subscribe (w.subscribe streamId).1 (w.subscribe streamId).2
  | received (ch : ChannelId) (r : Received StreamMessage) (c : SyncChannel StreamMessage)
      (known : ch < w.channelCount) (alive : (w.channels ch).receiverAlive = true)
      (recv : (w.channels ch).recv = some (r, c)) :
      Stepped streamId w (.recv ch) { w with channels := Function.update w.channels ch c }
        { received := some (ch, r) }
  | hungUp (ch : ChannelId) (known : ch < w.channelCount) :
      Stepped streamId w (.hangUp ch)
        { w with channels := Function.update w.channels ch (w.channels ch).dropReceiver } {}
  | statePoisoned : Stepped streamId w .poisonState { w with statePoisoned := true } {}
  | repositoryPoisoned :
      Stepped streamId w .poisonRepository { w with repositoryPoisoned := true } {}

/-- A step runs what its action says, for the call its flag finds. -/
theorem World.step_stepped {σ : Type} [StateRepository σ] {streamId : String} {w w' : World σ}
    {a : Action} {o : Output} (hs : w.step streamId a = some (w', o)) :
    Stepped streamId w a w' o := by
  cases a with
  | dispatch request =>
    obtain ⟨rfl, rfl⟩ := Prod.mk.inj (Option.some.inj hs)
    exact .dispatched request
  | firstCheck flag =>
    simp only [World.step] at hs
    cases hl : w.opens.lookup flag with
    | none => simp [hl] at hs
    | some call =>
      cases hx : call.execution <;>
        simp only [hl, hx, reduceCtorEq, Option.some.injEq, Prod.mk.injEq] at hs
      obtain ⟨rfl, rfl⟩ := hs
      exact .moved _ flag call _ hl (.firstCheck hx)
  | inspectReturns flag answer =>
    simp only [World.step] at hs
    cases hl : w.opens.lookup flag with
    | none => simp [hl] at hs
    | some call =>
      cases hx : call.execution <;>
        simp only [hl, hx, reduceCtorEq, Option.some.injEq, Prod.mk.injEq] at hs
      obtain ⟨rfl, rfl⟩ := hs
      exact .moved _ flag call _ hl (.inspectReturns answer hx)
  | secondCheck flag nextId =>
    simp only [World.step] at hs
    cases hl : w.opens.lookup flag with
    | none => simp [hl] at hs
    | some call =>
      cases hx : call.execution <;>
        simp only [hl, hx, reduceCtorEq, Option.some.injEq, Prod.mk.injEq] at hs
      obtain ⟨rfl, rfl⟩ := hs
      exact .moved _ flag call _ hl (.secondCheck _ nextId hx)
  | finish flag =>
    simp only [World.step] at hs
    cases hl : w.opens.lookup flag with
    | none => simp [hl] at hs
    | some call =>
      cases hx : call.execution <;> simp only [hl, hx, reduceCtorEq, Option.some.injEq] at hs
      obtain ⟨rfl, rfl⟩ := Prod.mk.inj hs
      exact .finished flag call _ hl hx
  | subscribe =>
    obtain ⟨rfl, rfl⟩ := Prod.mk.inj (Option.some.inj hs)
    exact .subscribed
  | recv ch =>
    simp only [World.step] at hs
    split_ifs at hs with hc
    obtain ⟨⟨r, c⟩, hr, he⟩ := Option.map_eq_some_iff.mp hs
    obtain ⟨rfl, rfl⟩ := Prod.mk.inj he
    exact .received ch r c hc.1 hc.2 hr
  | hangUp ch =>
    simp only [World.step] at hs
    split_ifs at hs with hc
    obtain ⟨rfl, rfl⟩ := Prod.mk.inj (Option.some.inj hs)
    exact .hungUp ch hc
  | poisonState =>
    obtain ⟨rfl, rfl⟩ := Prod.mk.inj (Option.some.inj hs)
    exact .statePoisoned
  | poisonRepository =>
    obtain ⟨rfl, rfl⟩ := Prod.mk.inj (Option.some.inj hs)
    exact .repositoryPoisoned

/-- Only a call whose use case has returned finishes. -/
theorem World.step_finish {σ : Type} [StateRepository σ] {streamId : String} {w w' : World σ}
    {flag : FlagId} {o : Output} (hs : w.step streamId (.finish flag) = some (w', o)) :
    ∃ call result, w.opens.lookup flag = some call ∧ call.execution = .returned result ∧
      w.finishOpen streamId flag call result = (w', o) := by
  cases World.step_stepped hs with
  | moved _ _ _ _ _ moves => cases moves
  | finished _ call result running returned => exact ⟨call, result, running, returned, rfl⟩

/-- Everything one step of a healthy session can do. -/
inductive Outcome {σ : Type} [StateRepository σ] (streamId : String) (w : World σ) :
    Action → World σ → Output → Prop where
  | answered (request : ClientRequest) (response : ServerResponse) :
      Outcome streamId w (.dispatch request) w { response := some response }
  | begun (request : ClientRequest) (path key : String) (event : DaemonEvent)
      (method : request.method = .openProject path)
      (keyed : request.idempotencyKey = some key)
      (notCompleted : key ∉ w.state.completed) (notInFlight : key ∉ w.state.inFlight)
      (idle : request.requestId ∉ w.state.active)
      (next : World.IsNext streamId w (.operationStarted request.requestId .openProject) event) :
      Outcome streamId w (.dispatch request) (w.begun request path key event)
        { events := [event] }
  | cancelled (request : ClientRequest) (target key : String) (completion : Completion)
      (method : request.method = .cancelRequest target)
      (keyed : request.idempotencyKey = some key)
      (notCompleted : key ∉ w.state.completed) (notInFlight : key ∉ w.state.inFlight)
      (completes : completion = ⟨key,.cancelRequest target,request.requestId,
        .success request.requestId (.cancellation target (w.cancelTarget target).2)⟩) :
      Outcome streamId w (.dispatch request) (w.cancelled target completion)
        { response := some completion.response, remembered := some completion }
  | moved (a : Action) (flag : FlagId) (call : OpenCall) (execution : Execution)
      (running : w.opens.lookup flag = some call) (moves : Moves w flag call a execution) :
      Outcome streamId w a (w.advance flag call execution) {}
  | finished (flag : FlagId) (call : OpenCall) (result : Except ApplicationError Project)
      (repo : Option σ) (project : Option ProjectSnapshot) (payload : DaemonEventPayload)
      (event : DaemonEvent) (response : ServerResponse) (saved : Option Project)
      (completion : Completion)
      (running : w.opens.lookup flag = some call) (here : call.execution = .returned result)
      (settles : Settlement w call.request.requestId result repo project payload response saved)
      (next : World.IsNext streamId w payload event)
      (completes : completion = ⟨call.key,call.fingerprint,call.request.requestId,response⟩) :
      Outcome streamId w (.finish flag) (w.finished flag call repo project event completion)
        { response := some response, events := [event], remembered := some completion,
          saved := saved }
  | subscribed :
      Outcome streamId w .subscribe (w.subscribe streamId).1 (w.subscribe streamId).2
  | received (ch : ChannelId) (r : Received StreamMessage) (c : SyncChannel StreamMessage)
      (known : ch < w.channelCount) (alive : (w.channels ch).receiverAlive = true)
      (recv : (w.channels ch).recv = some (r, c)) :
      Outcome streamId w (.recv ch) { w with channels := Function.update w.channels ch c }
        { received := some (ch, r) }
  | hungUp (ch : ChannelId) (known : ch < w.channelCount) :
      Outcome streamId w (.hangUp ch)
        { w with channels := Function.update w.channels ch (w.channels ch).dropReceiver } {}

section Inversion

variable {σ : Type} [StateRepository σ] {streamId : String} {w w' : World σ}

theorem beginOpen_outcome (h : Healthy w) (request : ClientRequest) (path : String)
    (method : request.method = .openProject path) :
    Outcome streamId w (.dispatch request) (w.beginOpen streamId request path).1
      (w.beginOpen streamId request path).2 := by
  unfold World.beginOpen
  cases hk : request.idempotencyKey with
  | none => exact .answered request _
  | some key =>
    dsimp only
    rw [if_neg (by simp [h.state_lock])]
    cases ha : w.state.admit key (.openProject path) request.requestId with
    | some response => exact .answered request response
    | none =>
      dsimp only
      obtain ⟨hc, hf⟩ := (World.admit_none_iff _ _ _ _).mp ha
      by_cases hr : request.requestId ∈ w.state.active
      · rw [if_pos hr]
        exact .answered request _
      · rw [if_neg hr]
        obtain ⟨event, he, hn⟩ := World.emitLocked_of_lt streamId
          (w.register request.requestId path key)
          (.operationStarted request.requestId .openProject) h.sequence_lt
        rw [he]
        exact .begun request path key event method hk hc hf hr
          ⟨hn.version, hn.stream, hn.sequence, hn.payload_eq⟩

theorem cancel_outcome (h : Healthy w) (request : ClientRequest) (target : String)
    (method : request.method = .cancelRequest target) :
    Outcome streamId w (.dispatch request) (w.cancel request target).1
      (w.cancel request target).2 := by
  unfold World.cancel
  cases hk : request.idempotencyKey with
  | none => exact .answered request _
  | some key =>
    dsimp only
    rw [if_neg (by simp [h.state_lock])]
    cases ha : w.state.admit key (.cancelRequest target) request.requestId with
    | some response => exact .answered request response
    | none =>
      obtain ⟨hc, hf⟩ := (World.admit_none_iff _ _ _ _).mp ha
      exact .cancelled request target key _ method hk hc hf rfl

theorem settle_outcome (streamId : String) (h : Healthy w) (flag : FlagId) (call : OpenCall)
    (result : Except ApplicationError Project) :
    ∃ repo project payload event response saved,
      Settlement w call.request.requestId result repo project payload response saved ∧
      World.IsNext streamId w payload event ∧
      (w.remove flag call).settle streamId call.request.requestId result =
        (⟨w.settled flag call repo project event,response,[event]⟩, saved) := by
  have hseq : (w.remove flag call).state.sequence < u64Max := h.sequence_lt
  have same (repo : Option σ) (event : DaemonEvent) :
      w.settled flag call repo w.state.project event =
        ((w.remove flag call).setRepository repo).emit event := by
    obtain ⟨sub, chans, he⟩ :=
      ((w.remove flag call).setRepository repo).emit_frame event
    unfold World.settled
    rw [he]
    rfl
  have next (repo : Option σ) {payload : DaemonEventPayload} {event : DaemonEvent}
      (hn : World.IsNext streamId ((w.remove flag call).setRepository repo) payload event) :
      World.IsNext streamId w payload event := ⟨hn.version, hn.stream, hn.sequence, hn.payload_eq⟩
  cases result with
  | ok p =>
    cases hr : w.stateRepository with
    | none =>
      obtain ⟨event, he, hn⟩ := World.emitAndRespond_of_lt streamId (w.remove flag call)
        call.request.requestId (.projectOpened call.request.requestId (snapshotOf p))
        (fun w => { w with state := { w.state with project := some (snapshotOf p) } })
        (.success call.request.requestId (.projectOpened (snapshotOf p))) hseq
      refine ⟨_, _, _, event, _, _, .opened p hr, next w.stateRepository hn, ?_⟩
      have hs : (w.remove flag call).stateRepository = none := hr
      simp only [World.settle, hs, World.completeSuccess, he]
      rw [← hs]
      rfl
    | some repo =>
      have hs : (w.remove flag call).stateRepository = some repo := hr
      have hp : (w.remove flag call).repositoryPoisoned = false := h.repository_lock
      cases hv : StateRepository.saveProject p repo with
      | mk answer repo' =>
        cases answer with
        | ok u =>
          obtain ⟨event, he, hn⟩ := World.emitAndRespond_of_lt streamId
            ((w.remove flag call).setRepository (some repo'))
            call.request.requestId (.projectOpened call.request.requestId (snapshotOf p))
            (fun w => { w with state := { w.state with project := some (snapshotOf p) } })
            (.success call.request.requestId (.projectOpened (snapshotOf p))) hseq
          refine ⟨_, _, _, event, _, _, .stored p repo repo' hr hv, next _ hn, ?_⟩
          simp only [World.settle, hs, hp, hv, World.completeSuccess, he, Bool.false_eq_true, if_false,
            World.settled]
        | error e =>
          obtain ⟨event, he, hn⟩ := World.emitAndRespond_of_lt streamId
            ((w.remove flag call).setRepository (some repo'))
            call.request.requestId (.operationFailed call.request.requestId
              (classifyApplicationError e).1 (classifyApplicationError e).2) id
            (.failure call.request.requestId (classifyApplicationError e).1
              (classifyApplicationError e).2) hseq
          refine ⟨_, _, _, event, _, _, .unsaved p e repo repo' hr hv, next _ hn, ?_⟩
          simp only [World.settle, hs, hp, hv, World.completeFailure, he, Bool.false_eq_true, if_false,
            id, same]
  | error e =>
    by_cases hc : e = .cancelled
    · subst e
      obtain ⟨event, he, hn⟩ := World.emitAndRespond_of_lt streamId (w.remove flag call)
        call.request.requestId (.operationCancelled call.request.requestId) id
        (.failure call.request.requestId .operationCancelled "Project opening was cancelled") hseq
      refine ⟨_, _, _, event, _, _, .cancelled, next w.stateRepository hn, ?_⟩
      rw [same]
      simp only [World.settle, World.completeCancellation, he, id]
      rfl
    · obtain ⟨event, he, hn⟩ := World.emitAndRespond_of_lt streamId (w.remove flag call)
        call.request.requestId (.operationFailed call.request.requestId
          (classifyApplicationError e).1 (classifyApplicationError e).2) id
        (.failure call.request.requestId (classifyApplicationError e).1
          (classifyApplicationError e).2) hseq
      refine ⟨_, _, _, event, _, _, .failed e hc, next w.stateRepository hn, ?_⟩
      rw [same]
      have hd : (w.remove flag call).settle streamId call.request.requestId (.error e) =
          ((w.remove flag call).completeFailure streamId call.request.requestId e, none) := by
        cases e <;> first | rfl | exact absurd rfl hc
      rw [hd]
      simp only [World.completeFailure, he, id]
      rfl

/-- A finish under a healthy lock. -/
theorem finishOpen_outcome (h : Healthy w) (flag : FlagId) (call : OpenCall)
    (result : Except ApplicationError Project) (running : w.opens.lookup flag = some call)
    (returned : call.execution = .returned result) :
    Outcome streamId w (.finish flag) (w.finishOpen streamId flag call result).1
      (w.finishOpen streamId flag call result).2 := by
  obtain ⟨repo, project, payload, event, response, saved, hset, hn, he⟩ :=
    settle_outcome streamId h flag call result
  have hf : w.finishOpen streamId flag call result =
      (w.finished flag call repo project event
        ⟨call.key,call.fingerprint,call.request.requestId,response⟩,
        { response := some response, events := [event],
          remembered := some ⟨call.key,call.fingerprint,call.request.requestId,response⟩,
          saved := saved }) := by
    change (if w.statePoisoned = true then _ else _) = _
    rw [if_neg (by simp [h.state_lock])]
    change (let p := (w.remove flag call).settle streamId call.request.requestId result; _) = _
    rw [he]
    rfl
  rw [hf]
  exact .finished flag call result repo project payload event response saved _ running returned
    hset hn rfl

/-- One step of a healthy session that leaves it healthy is one of the outcomes. -/
theorem step_outcome {a : Action} {o : Output} (h : Healthy w) (h' : Healthy w')
    (hs : (session σ streamId).step w a = some (w', o)) : Outcome streamId w a w' o := by
  cases World.step_stepped hs with
  | dispatched request =>
    unfold World.dispatch
    cases hm : request.method with
    | health => exact .answered request _
    | subscribeEvents => exact .answered request _
    | openProject path => exact beginOpen_outcome h request path hm
    | cancelRequest target => exact cancel_outcome h request target hm
  | moved _ flag call execution running moves =>
    exact .moved a flag call execution running moves
  | finished flag call result running returned =>
    exact finishOpen_outcome h flag call result running returned
  | subscribed => exact .subscribed
  | received ch r c known alive recv => exact .received ch r c known alive recv
  | hungUp ch known => exact .hungUp ch known
  | statePoisoned => exact absurd h'.state_lock (by simp)
  | repositoryPoisoned => exact absurd h'.repository_lock (by simp)

end Inversion

end Kesharon.Daemon

import Kesharon.Daemon.CallEffects
import Kesharon.Daemon.Idempotency

namespace Kesharon.Daemon

open Framework Domain Protocol Application

/-- Answers to a mutation that changes nothing. -/
inductive Refusal (requestId : String) : ServerResponse → Prop where
  | conflict : Refusal requestId (idempotencyConflict requestId)
  | internal : Refusal requestId (internalError requestId)
  | keyRunning : Refusal requestId (keyInProgress requestId)
  | requestRunning : Refusal requestId (requestInProgress requestId)

section Forms

variable {σ : Type}

/-- The responses of a step, whatever locks are poisoned and wherever the event counter stands. -/
inductive Replies (streamId : String) (w : World σ) : Action → ServerResponse → Prop where
  | health (request : ClientRequest) (method : request.method = .health) :
      Replies streamId w (.dispatch request)
        (.success request.requestId (.health .ready PROTOCOL_VERSION))
  | subscription (request : ClientRequest) (method : request.method = .subscribeEvents) :
      Replies streamId w (.dispatch request)
        (.success request.requestId (.subscriptionReady streamId))
  | refused (request : ClientRequest) {r : ServerResponse} (refusal : Refusal request.requestId r) :
      Replies streamId w (.dispatch request) r
  | replayed (request : ClientRequest) (key : String) (completed : CompletedMutation)
      (keyed : request.idempotencyKey = some key)
      (known : w.state.completed.lookup key = some completed)
      (same : fingerprintOf request.method = some completed.fingerprint) :
      Replies streamId w (.dispatch request) (completed.response.withRequestId request.requestId)
  | cancellation (request : ClientRequest) (target : String) (outcome : CancellationOutcome)
      (method : request.method = .cancelRequest target) :
      Replies streamId w (.dispatch request)
        (.success request.requestId (.cancellation target outcome))
  | finished (flag : FlagId) (call : OpenCall) (result : Except ApplicationError Project)
      (running : w.opens.lookup flag = some call) (returned : call.execution = .returned result)
      {r : ServerResponse} {payload : DaemonEventPayload}
      (verdict : Verdict call.request.requestId result r payload) :
      Replies streamId w (.finish flag) r
  | lost (flag : FlagId) (call : OpenCall) (running : w.opens.lookup flag = some call) :
      Replies streamId w (.finish flag) (internalError call.request.requestId)

/-- The events of a step. -/
inductive Emits (streamId : String) (w : World σ) : Action → DaemonEvent → Prop where
  | started (request : ClientRequest) (path : String) (sequence : UInt64)
      (method : request.method = .openProject path)
      (next : checkedSucc w.state.sequence = some sequence) :
      Emits streamId w (.dispatch request)
        ⟨PROTOCOL_VERSION,streamId,sequence,.operationStarted request.requestId .openProject⟩
  | finished (flag : FlagId) (call : OpenCall) (result : Except ApplicationError Project)
      (running : w.opens.lookup flag = some call) (returned : call.execution = .returned result)
      {r : ServerResponse} {payload : DaemonEventPayload} (sequence : UInt64)
      (verdict : Verdict call.request.requestId result r payload)
      (next : checkedSucc w.state.sequence = some sequence) :
      Emits streamId w (.finish flag) ⟨PROTOCOL_VERSION,streamId,sequence,payload⟩

/-- The fingerprints under which a step remembers its response. -/
def Fingerprints : Action → MutationFingerprint → Prop
  | .dispatch request, fingerprint => fingerprintOf request.method = some fingerprint
  | .finish _, fingerprint => ∃ path, fingerprint = .openProject path
  | _, _ => False

end Forms

namespace World

variable {σ : Type}

theorem emitLocked_event {streamId : String} {w w' : World σ} {payload : DaemonEventPayload}
    {event : DaemonEvent} (h : w.emitLocked streamId payload = .ok (w', event)) :
    ∃ sequence, checkedSucc w.state.sequence = some sequence ∧
      event = ⟨PROTOCOL_VERSION,streamId,sequence,payload⟩ := by
  unfold emitLocked at h
  cases next : checkedSucc w.state.sequence with
  | none => simp [next] at h
  | some sequence =>
    simp only [next, DaemonEvent.new] at h
    split_ifs at h with zero
    obtain ⟨_, rfl⟩ := Prod.mk.inj (Except.ok.inj h)
    exact ⟨sequence, rfl, rfl⟩

/-- What a block that emits and responds says, after so many events. -/
inductive Said (streamId : String) (count : UInt64) (requestId : String)
    (result : Except ApplicationError Project) : ServerResponse → List DaemonEvent → Prop where
  | lost : Said streamId count requestId result (internalError requestId) []
  | said {r : ServerResponse} {payload : DaemonEventPayload} (sequence : UInt64)
      (verdict : Verdict requestId result r payload) (next : checkedSucc count = some sequence) :
      Said streamId count requestId result r [⟨PROTOCOL_VERSION,streamId,sequence,payload⟩]

theorem emitAndRespond_said {streamId : String} {w : World σ} {requestId : String}
    {result : Except ApplicationError Project} {payload : DaemonEventPayload}
    {after : World σ → World σ} {response : ServerResponse}
    (verdict : Verdict requestId result response payload) :
    Said streamId w.state.sequence requestId result
      (w.emitAndRespond streamId requestId payload after response).response
      (w.emitAndRespond streamId requestId payload after response).events := by
  unfold emitAndRespond
  cases he : w.emitLocked streamId payload with
  | error e => exact .lost
  | ok p =>
    obtain ⟨w', event⟩ := p
    obtain ⟨sequence, next, rfl⟩ := emitLocked_event he
    exact .said sequence verdict next

theorem settle_said [StateRepository σ] (streamId : String) (w : World σ) (requestId : String)
    (result : Except ApplicationError Project) :
    Said streamId w.state.sequence requestId result (w.settle streamId requestId result).1.response
      (w.settle streamId requestId result).1.events := by
  have how := settle_settles streamId w requestId result
  generalize (w.settle streamId requestId result).1 = settled at how ⊢
  cases how with
  | locked => exact .lost
  | @emitted repo response payload after verdict project =>
    have said : Said streamId (w.setRepository repo).state.sequence requestId result
        ((w.setRepository repo).emitAndRespond streamId requestId payload after response).response
        ((w.setRepository repo).emitAndRespond streamId requestId payload after response).events :=
      emitAndRespond_said verdict
    exact said

/-- Emitting and responding leaves the completed mutations alone. -/
theorem emitAndRespond_completed {streamId : String} {w : World σ} {requestId : String}
    {payload : DaemonEventPayload} {after : World σ → World σ} {response : ServerResponse}
    (same : ∀ v, (after v).state.completed = v.state.completed) :
    (w.emitAndRespond streamId requestId payload after response).world.state.completed =
      w.state.completed := by
  unfold emitAndRespond
  cases he : w.emitLocked streamId payload with
  | error e => rfl
  | ok p =>
    obtain ⟨w', event⟩ := p
    obtain ⟨_, sequence, sub, chans, rfl⟩ := emitLocked_frame he
    exact same _

theorem settle_completed [StateRepository σ] (streamId : String) (w : World σ) (requestId : String)
    (result : Except ApplicationError Project) :
    (w.settle streamId requestId result).1.world.state.completed = w.state.completed := by
  have how := settle_settles streamId w requestId result
  generalize (w.settle streamId requestId result).1 = settled at how ⊢
  cases how with
  | locked => rfl
  | @emitted repo response payload after verdict project =>
    have same (v : World σ) : (after v).state.completed = v.state.completed := by
      obtain ⟨p, how⟩ := project v
      rw [how]
    have kept : ((w.setRepository repo).emitAndRespond streamId requestId payload after
        response).world.state.completed = (w.setRepository repo).state.completed :=
      emitAndRespond_completed same
    exact kept

end World

theorem admit_replies {σ : Type} {streamId : String} {w : World σ} {request : ClientRequest}
    {key : String} {fingerprint : MutationFingerprint} {r : ServerResponse}
    (keyed : request.idempotencyKey = some key)
    (method : fingerprintOf request.method = some fingerprint)
    (h : w.state.admit key fingerprint request.requestId = some r) :
    Replies streamId w (.dispatch request) r := by
  unfold SessionState.admit at h
  cases known : w.state.completed.lookup key with
  | some completed =>
    simp only [known] at h
    split_ifs at h with other <;> obtain rfl := Option.some.inj h
    · exact .refused request .conflict
    · have same := not_not.mp other
      exact .replayed request key completed keyed known (same ▸ method)
  | none =>
    simp only [known] at h
    cases running : w.state.inFlight.lookup key with
    | none => simp [running] at h
    | some inFlight =>
      simp only [running] at h
      split_ifs at h <;> obtain rfl := Option.some.inj h
      · exact .refused request .conflict
      · exact .refused request .keyRunning

theorem lookup_of_lookup_evict {κ ν : Type*} [DecidableEq κ] (limit : Nat) (order : List κ)
    (m : Assoc κ ν) {k : κ} {v : ν}
    (h : (evict limit (fun m k => m.erase k) order m).2.lookup k = some v) :
    m.lookup k = some v := by
  induction order generalizing m with
  | nil => exact h
  | cons expired rest ih =>
    unfold evict at h
    split_ifs at h
    · have kept := ih _ h
      rw [Assoc.lookup_erase_ite] at kept
      split_ifs at kept
      exact kept
    · exact h

theorem completed_of_remembered {s : SessionState} {c : Completion} {key : String}
    {m : CompletedMutation} (h : (s.rememberCompleted c).completed.lookup key = some m) :
    s.completed.lookup key = some m ∨ m = c.mutation := by
  have before := lookup_of_lookup_evict _ _ _ h
  rw [Assoc.lookup_insert_ite] at before
  split_ifs at before
  · exact .inr (Option.some.inj before).symm
  · exact .inl before

namespace World

variable {σ : Type} [StateRepository σ] {streamId : String} {w w' : World σ} {a : Action}
variable {o : Output}

/-- Every message in a channel was there before, or is one of these events. -/
def Queues (w w' : World σ) (events : List DaemonEvent) : Prop :=
  ∀ ch m, m ∈ (w'.channels ch).buffer →
    (∃ c, m ∈ (w.channels c).buffer) ∨ ∃ e ∈ events, m = .event e

/-- What a step says, which of its responses it keeps for replays, and what it moves through the
channels. -/
structure Speaks (streamId : String) (w : World σ) (a : Action) (w' : World σ) (o : Output) :
    Prop where
  response : ∀ r, o.response = some r → Replies streamId w a r
  events : ∀ e ∈ o.events, Emits streamId w a e
  completed : ∀ key m, w'.state.completed.lookup key = some m →
    w.state.completed.lookup key = some m ∨
      o.response = some m.response ∧ Fingerprints a m.fingerprint
  queued : Queues w w' o.events
  received : ∀ ch m, o.received = some (ch, .message m) → m ∈ (w.channels ch).buffer

omit [StateRepository σ] in
theorem Speaks.answer {r : ServerResponse} (replies : Replies streamId w a r) :
    Speaks streamId w a w { response := some r } where
  response _ same := Option.some.inj same ▸ replies
  events := nofun
  completed _ _ := .inl
  queued ch _ mem := .inl ⟨ch, mem⟩
  received := nofun

omit [StateRepository σ] in
theorem Speaks.silent (same : w'.state.completed = w.state.completed) (quiet : o.response = none)
    (calm : o.events = []) (deaf : o.received = none)
    (queued : ∀ ch m, m ∈ (w'.channels ch).buffer → m ∈ (w.channels ch).buffer) :
    Speaks streamId w a w' o where
  response r said := by simp [quiet] at said
  events e said := by simp [calm] at said
  completed key m known := .inl (same ▸ known)
  queued ch m mem := .inl ⟨ch, queued ch m mem⟩
  received ch m got := by simp [deaf] at got

omit [StateRepository σ] in
theorem deliver_queues (w : World σ) (event : DaemonEvent) :
    Queues w (w.deliver event) [event] := by
  intro ch m mem
  unfold deliver at mem
  cases subscriber : w.state.subscriber with
  | none =>
    simp only [subscriber] at mem
    exact .inl ⟨ch, mem⟩
  | some c =>
    simp only [subscriber] at mem
    cases sent : (w.channels c).trySend (.event event) with
    | ok channel =>
      obtain ⟨_, _, rfl⟩ := SyncChannel.trySend_ok sent
      simp only [sent, Function.update_apply] at mem
      split_ifs at mem
      · rcases List.mem_append.mp mem with before | new
        · exact .inl ⟨c, before⟩
        · exact .inr ⟨event, by simp, List.mem_singleton.mp new⟩
      · exact .inl ⟨ch, mem⟩
    | error e =>
      simp only [sent, Function.update_apply] at mem
      split_ifs at mem
      · exact .inl ⟨c, mem⟩
      · exact .inl ⟨ch, mem⟩

omit [StateRepository σ] in
theorem emitLocked_queues {payload : DaemonEventPayload} {event : DaemonEvent}
    (h : w.emitLocked streamId payload = .ok (w', event)) : Queues w w' [event] := by
  unfold emitLocked at h
  cases next : checkedSucc w.state.sequence with
  | none => simp [next] at h
  | some sequence =>
    simp only [next, DaemonEvent.new] at h
    split_ifs at h with zero
    obtain ⟨rfl, rfl⟩ := Prod.mk.inj (Except.ok.inj h)
    exact deliver_queues _ _

omit [StateRepository σ] in
theorem emitAndRespond_queues {requestId : String} {payload : DaemonEventPayload}
    {after : World σ → World σ} {response : ServerResponse}
    (same : ∀ v, (after v).channels = v.channels) :
    Queues w (w.emitAndRespond streamId requestId payload after response).world
      (w.emitAndRespond streamId requestId payload after response).events := by
  unfold emitAndRespond
  cases he : w.emitLocked streamId payload with
  | error e => exact fun ch m mem => .inl ⟨ch, mem⟩
  | ok p =>
    have queues := emitLocked_queues he
    intro ch m mem
    dsimp only at mem
    rw [same] at mem
    exact queues ch m mem

theorem settle_queues (requestId : String) (result : Except ApplicationError Project) :
    Queues w (w.settle streamId requestId result).1.world
      (w.settle streamId requestId result).1.events := by
  have how := settle_settles streamId w requestId result
  generalize (w.settle streamId requestId result).1 = settled at how ⊢
  cases how with
  | locked => exact fun ch m mem => .inl ⟨ch, mem⟩
  | @emitted repo response payload after verdict project =>
    have same (v : World σ) : (after v).channels = v.channels := by
      obtain ⟨p, how⟩ := project v
      rw [how]
    have kept : Queues (w.setRepository repo)
        ((w.setRepository repo).emitAndRespond streamId requestId payload after response).world
        ((w.setRepository repo).emitAndRespond streamId requestId payload after response).events :=
      emitAndRespond_queues same
    exact kept

omit [StateRepository σ] in
theorem beginOpen_speaks (request : ClientRequest) (path : String)
    (method : request.method = .openProject path) :
    Speaks streamId w (.dispatch request) (w.beginOpen streamId request path).1
      (w.beginOpen streamId request path).2 := by
  unfold beginOpen
  cases keyed : request.idempotencyKey with
  | none => exact .answer (.refused request .internal)
  | some key =>
    dsimp only
    by_cases lock : w.statePoisoned = true
    · rw [if_pos lock]
      exact .answer (.refused request .internal)
    · rw [if_neg lock]
      cases admitted : w.state.admit key (.openProject path) request.requestId with
      | some r => exact .answer (admit_replies keyed (congrArg fingerprintOf method) admitted)
      | none =>
        dsimp only
        by_cases running : request.requestId ∈ w.state.active
        · rw [if_pos running]
          exact .answer (.refused request .requestRunning)
        · rw [if_neg running]
          cases he : (w.register request.requestId path key).emitLocked streamId
              (.operationStarted request.requestId .openProject) with
          | error e =>
            exact { Speaks.answer (.refused request .internal) with }
          | ok p =>
            obtain ⟨w', event⟩ := p
            have queues := emitLocked_queues he
            obtain ⟨sequence, next, rfl⟩ := emitLocked_event he
            obtain ⟨_, number, sub, chans, rfl⟩ := emitLocked_frame he
            refine ⟨nofun, ?_, fun key m => .inl, queues, nofun⟩
            intro e said
            obtain rfl := List.mem_singleton.mp said
            exact .started request path sequence method next

omit [StateRepository σ] in
theorem cancel_speaks (request : ClientRequest) (target : String)
    (method : request.method = .cancelRequest target) :
    Speaks streamId w (.dispatch request) (w.cancel request target).1
      (w.cancel request target).2 := by
  unfold cancel
  cases keyed : request.idempotencyKey with
  | none => exact .answer (.refused request .internal)
  | some key =>
    dsimp only
    by_cases lock : w.statePoisoned = true
    · rw [if_pos lock]
      exact .answer (.refused request .internal)
    · rw [if_neg lock]
      cases admitted : w.state.admit key (.cancelRequest target) request.requestId with
      | some r => exact .answer (admit_replies keyed (congrArg fingerprintOf method) admitted)
      | none =>
        refine ⟨?_, nofun, ?_, fun ch m mem => .inl ⟨ch, mem⟩, nofun⟩
        · intro r said
          rw [← Option.some.inj said]
          exact .cancellation request target _ method
        · intro key m known
          rcases completed_of_remembered known with before | rfl
          · exact .inl before
          · exact .inr ⟨rfl, congrArg fingerprintOf method⟩

theorem finishOpen_speaks {flag : FlagId} {call : OpenCall}
    {result : Except ApplicationError Project} (running : w.opens.lookup flag = some call)
    (returned : call.execution = .returned result) :
    Speaks streamId w (.finish flag) (w.finishOpen streamId flag call result).1
      (w.finishOpen streamId flag call result).2 := by
  unfold finishOpen
  by_cases lock : w.statePoisoned = true
  · rw [if_pos lock]
    exact { Speaks.answer (.lost flag call running) with }
  · rw [if_neg lock]
    have said := settle_said streamId (w.remove flag call) call.request.requestId result
    have kept : ((w.remove flag call).settle streamId call.request.requestId
        result).1.world.state.completed = w.state.completed :=
      settle_completed streamId (w.remove flag call) call.request.requestId result
    have queues : Queues w ((w.remove flag call).settle streamId call.request.requestId
        result).1.world ((w.remove flag call).settle streamId call.request.requestId
        result).1.events :=
      settle_queues call.request.requestId result
    generalize (w.remove flag call).settle streamId call.request.requestId result = settled
      at said kept queues ⊢
    obtain ⟨⟨world, response, events⟩, saved⟩ := settled
    refine ⟨?_, ?_, ?_, queues, nofun⟩
    · intro r same
      obtain rfl := Option.some.inj same
      cases said with
      | lost => exact .lost flag call running
      | said sequence verdict next => exact .finished flag call result running returned verdict
    · intro e member
      cases said with
      | lost => exact nomatch member
      | said sequence verdict next =>
        obtain rfl := List.mem_singleton.mp member
        exact .finished flag call result running returned sequence verdict next
    · intro key m known
      rcases completed_of_remembered known with before | rfl
      · exact .inl (kept ▸ before)
      · exact .inr ⟨rfl, call.path, rfl⟩

omit [StateRepository σ] in
theorem dispatch_speaks (request : ClientRequest) :
    Speaks streamId w (.dispatch request) (w.dispatch streamId request).1
      (w.dispatch streamId request).2 := by
  unfold dispatch
  cases method : request.method with
  | health => exact .answer (.health request method)
  | subscribeEvents => exact .answer (.subscription request method)
  | openProject path => exact beginOpen_speaks request path method
  | cancelRequest target => exact cancel_speaks request target method

omit [StateRepository σ] in
theorem subscribe_speaks :
    Speaks streamId w .subscribe (w.subscribe streamId).1 (w.subscribe streamId).2 := by
  unfold subscribe
  split_ifs
  · exact .silent rfl rfl rfl rfl fun _ _ mem => mem
  · refine .silent rfl rfl rfl rfl fun ch m mem => ?_
    cases old : w.state.subscriber with
    | none =>
      simp only [old, Function.update_apply] at mem
      split_ifs at mem
      · exact nomatch mem
      · exact mem
    | some c =>
      simp only [old, Function.update_apply] at mem
      split_ifs at mem with _ same
      · exact nomatch mem
      · exact same ▸ mem
      · exact mem

omit [StateRepository σ] in
theorem recv_speaks {ch : ChannelId} {got : Received StreamMessage}
    {channel : SyncChannel StreamMessage} (received : (w.channels ch).recv = some (got, channel)) :
    Speaks streamId w (.recv ch) { w with channels := Function.update w.channels ch channel }
      { received := some (ch, got) } := by
  rcases SyncChannel.recv_some received with ⟨m, rfl, taken, _⟩ | ⟨rfl, _, _, rfl⟩
  · refine ⟨nofun, nofun, fun key m => .inl, ?_, ?_⟩
    · intro c m' mem
      simp only [Function.update_apply] at mem
      split_ifs at mem
      · exact .inl ⟨ch, taken ▸ List.mem_cons_of_mem m mem⟩
      · exact .inl ⟨c, mem⟩
    · rintro c m' ⟨⟩
      exact taken ▸ List.mem_cons_self
  · refine ⟨nofun, nofun, fun key m => .inl, ?_, nofun⟩
    intro c m mem
    rw [Function.update_eq_self] at mem
    exact .inl ⟨c, mem⟩

/-- Every step says only what its action has to say. -/
theorem step_speaks (hs : w.step streamId a = some (w', o)) : Speaks streamId w a w' o := by
  cases step_stepped hs with
  | dispatched request => exact dispatch_speaks request
  | moved _ flag call execution running moves =>
    exact .silent rfl rfl rfl rfl fun _ _ mem => mem
  | finished flag call result running returned => exact finishOpen_speaks running returned
  | subscribed => exact subscribe_speaks
  | received ch got channel known alive received => exact recv_speaks received
  | hungUp ch known =>
    refine .silent rfl rfl rfl rfl fun c m mem => ?_
    simp only [Function.update_apply] at mem
    split_ifs at mem with same
    · exact same ▸ mem
    · exact mem
  | statePoisoned => exact .silent rfl rfl rfl rfl fun _ _ mem => mem
  | repositoryPoisoned => exact .silent rfl rfl rfl rfl fun _ _ mem => mem

end World

end Kesharon.Daemon

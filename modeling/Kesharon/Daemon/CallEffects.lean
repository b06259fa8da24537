import Kesharon.Daemon.Steps

namespace Kesharon.Daemon

open Framework Domain Protocol Application

/-- What the result of a use case is answered with, and the payload of its event. -/
inductive Verdict (requestId : String) (result : Except ApplicationError Project) :
    ServerResponse → DaemonEventPayload → Prop where
  | opened (p : Project) (returned : result = .ok p) :
      Verdict requestId result (.success requestId (.projectOpened (snapshotOf p)))
        (.projectOpened requestId (snapshotOf p))
  | cancelled :
      Verdict requestId result
        (.failure requestId .operationCancelled "Project opening was cancelled")
        (.operationCancelled requestId)
  | failed (e : ApplicationError) :
      Verdict requestId result
        (.failure requestId (classifyApplicationError e).1 (classifyApplicationError e).2)
        (.operationFailed requestId (classifyApplicationError e).1 (classifyApplicationError e).2)

namespace World

variable {σ : Type}

/-- The part of a world that cancellation is about. -/
structure SameCalls (w w' : World σ) : Prop where
  flags : w'.flags = w.flags
  flagCount : w'.flagCount = w.flagCount
  opens : w'.opens = w.opens
  active : w'.state.active = w.state.active
  statePoisoned : w'.statePoisoned = w.statePoisoned

/-- An emission that succeeds changes the counter and the subscription, and carries its
payload. -/
theorem emitLocked_frame {streamId : String} {w w' : World σ} {payload : DaemonEventPayload}
    {event : DaemonEvent} (h : w.emitLocked streamId payload = .ok (w', event)) :
    event.payload = payload ∧ ∃ sequence subscriber channels, w' =
      { w with
        state := { w.state with sequence := sequence, subscriber := subscriber }
        channels := channels } := by
  unfold emitLocked at h
  cases hc : checkedSucc w.state.sequence with
  | none => simp [hc] at h
  | some sequence =>
    simp only [hc, DaemonEvent.new] at h
    by_cases hz : sequence = 0
    · simp [hz] at h
    · rw [if_neg hz] at h
      obtain ⟨rfl, rfl⟩ := Prod.mk.inj (Except.ok.inj h)
      obtain ⟨sub, chans, he⟩ := deliver_frame
        { w with state := { w.state with sequence := sequence } }
        ⟨PROTOCOL_VERSION,streamId,sequence,payload⟩
      exact ⟨rfl, sequence, sub, chans, he⟩

theorem emitAndRespond_same {streamId : String} {w : World σ} {requestId : String}
    {payload : DaemonEventPayload} {after : World σ → World σ} {response : ServerResponse}
    (keeps : ∀ v, SameCalls v (after v)) :
    SameCalls w (w.emitAndRespond streamId requestId payload after response).world := by
  unfold emitAndRespond
  cases he : w.emitLocked streamId payload with
  | error e => exact ⟨rfl, rfl, rfl, rfl, rfl⟩
  | ok p =>
    obtain ⟨w', event⟩ := p
    obtain ⟨_, sequence, sub, chans, rfl⟩ := emitLocked_frame he
    have kept := keeps { w with
      state := { w.state with sequence := sequence, subscriber := sub }
      channels := chans }
    exact ⟨kept.flags, kept.flagCount, kept.opens, kept.active, kept.statePoisoned⟩

/-- `settle` finds the store's lock poisoned, or emits and responds with some store and some project. -/
inductive Settles (streamId : String) (w : World σ) (requestId : String)
    (result : Except ApplicationError Project) : Settled σ → Prop where
  | locked : Settles streamId w requestId result ⟨w,internalError requestId,[]⟩
  | emitted (repo : Option σ) {r : ServerResponse} {payload : DaemonEventPayload}
      {after : World σ → World σ} (verdict : Verdict requestId result r payload)
      (project : ∀ v, ∃ project, after v = { v with state := { v.state with project := project } }) :
      Settles streamId w requestId result
        ((w.setRepository repo).emitAndRespond streamId requestId payload after r)

theorem settle_settles [StateRepository σ] (streamId : String) (w : World σ) (requestId : String)
    (result : Except ApplicationError Project) :
    Settles streamId w requestId result (w.settle streamId requestId result).1 := by
  have success (repo : Option σ) (p : Project) (returned : result = .ok p) :
      Settles streamId w requestId result
        ((w.setRepository repo).completeSuccess streamId requestId p) :=
    .emitted repo (.opened p returned) fun v => ⟨_, rfl⟩
  have failure (repo : Option σ) (e : ApplicationError) :
      Settles streamId w requestId result
        ((w.setRepository repo).completeFailure streamId requestId e) :=
    .emitted repo (.failed e) fun v => ⟨v.state.project, rfl⟩
  cases result with
  | error e =>
    cases e with
    | cancelled => exact .emitted w.stateRepository .cancelled fun v => ⟨v.state.project, rfl⟩
    | repository message =>
      have kept := failure w.stateRepository (.repository message)
      exact kept
    | invalidProject message =>
      have kept := failure w.stateRepository (.invalidProject message)
      exact kept
    | storage message =>
      have kept := failure w.stateRepository (.storage message)
      exact kept
    | vault message =>
      have kept := failure w.stateRepository (.vault message)
      exact kept
  | ok p =>
    unfold settle
    dsimp only
    cases store : w.stateRepository with
    | none =>
      have kept := success w.stateRepository p rfl
      exact kept
    | some repo =>
      dsimp only
      split_ifs
      · exact .locked
      · cases StateRepository.saveProject p repo with
        | mk answer repo' =>
          cases answer with
          | ok u => exact success (some repo') p rfl
          | error e => exact failure (some repo') e

theorem settle_same [StateRepository σ] (streamId : String) (w : World σ) (requestId : String)
    (result : Except ApplicationError Project) :
    SameCalls w (w.settle streamId requestId result).1.world := by
  have how := settle_settles streamId w requestId result
  generalize (w.settle streamId requestId result).1 = settled at how ⊢
  cases how with
  | locked => exact ⟨rfl, rfl, rfl, rfl, rfl⟩
  | @emitted repo response payload after verdict project =>
    have keeps (v : World σ) : SameCalls v (after v) := by
      obtain ⟨p, same⟩ := project v
      rw [same]
      exact ⟨rfl, rfl, rfl, rfl, rfl⟩
    have kept : SameCalls (w.setRepository repo)
        ((w.setRepository repo).emitAndRespond streamId requestId payload after response).world :=
      emitAndRespond_same keeps
    exact ⟨kept.flags, kept.flagCount, kept.opens, kept.active, kept.statePoisoned⟩

/-- What one step does to the calls in progress, their flags and their entries, whatever locks are
poisoned and wherever the event counter stands. -/
inductive CallEffect (w : World σ) : Action → World σ → Output → Prop where
  | unrelated {a : Action} {w' : World σ} {o : Output} (same : SameCalls w w')
      (other : ∀ flag, a ≠ .finish flag) : CallEffect w a w' o
  | poisoned {a : Action} {o : Output} (other : ∀ flag, a ≠ .finish flag) :
      CallEffect w a { w with statePoisoned := true } o
  | begun {w' : World σ} {o : Output} (request : ClientRequest) (key path : String)
      (method : request.method = .openProject path) (idle : request.requestId ∉ w.state.active)
      (flags : w'.flags = Function.update w.flags w.flagCount false)
      (flagCount : w'.flagCount = w.flagCount + 1)
      (opens : w'.opens = w.opens.insert w.flagCount ⟨request,key,path,w.flagCount,.entered⟩)
      (active : w'.state.active = w.state.active.insert request.requestId ⟨w.flagCount⟩)
      (statePoisoned : w'.statePoisoned = w.statePoisoned) : CallEffect w (.dispatch request) w' o
  | undone {w' : World σ} {o : Output} (request : ClientRequest) (path : String)
      (method : request.method = .openProject path) (idle : request.requestId ∉ w.state.active)
      (flags : w'.flags = Function.update w.flags w.flagCount false)
      (flagCount : w'.flagCount = w.flagCount + 1) (opens : w'.opens = w.opens)
      (active : w'.state.active =
        (w.state.active.insert request.requestId ⟨w.flagCount⟩).erase request.requestId)
      (statePoisoned : w'.statePoisoned = w.statePoisoned) : CallEffect w (.dispatch request) w' o
  | flagged {w' : World σ} {o : Output} (request : ClientRequest) (target key : String)
      (flag : FlagId) (method : request.method = .cancelRequest target)
      (keyed : request.idempotencyKey = some key) (clean : w.statePoisoned = false)
      (notCompleted : key ∉ w.state.completed) (notInFlight : key ∉ w.state.inFlight)
      (running : w.state.active.lookup target = some ⟨flag⟩)
      (answer : o.response = some (.success request.requestId (.cancellation target .accepted)))
      (flags : w'.flags = Function.update w.flags flag true) (flagCount : w'.flagCount = w.flagCount)
      (opens : w'.opens = w.opens) (active : w'.state.active = w.state.active)
      (statePoisoned : w'.statePoisoned = w.statePoisoned) : CallEffect w (.dispatch request) w' o
  | moved {a : Action} {o : Output} (flag : FlagId) (call : OpenCall) (execution : Execution)
      (running : w.opens.lookup flag = some call) (moves : Moves w flag call a execution) :
      CallEffect w a (w.advance flag call execution) o
  | finished {w' : World σ} {o : Output} (flag : FlagId) (call : OpenCall)
      (running : w.opens.lookup flag = some call) (flags : w'.flags = w.flags)
      (flagCount : w'.flagCount = w.flagCount) (opens : w'.opens = w.opens.erase flag)
      (active : w'.state.active = w.state.active.erase call.request.requestId ∨
        w'.state.active = w.state.active ∧ w'.statePoisoned = true)
      (statePoisoned : w'.statePoisoned = w.statePoisoned) : CallEffect w (.finish flag) w' o

theorem SameCalls.refl (w : World σ) : SameCalls w w := ⟨rfl, rfl, rfl, rfl, rfl⟩

theorem beginOpen_effect (streamId : String) (w : World σ) (request : ClientRequest)
    (path : String) (method : request.method = .openProject path) :
    CallEffect w (.dispatch request) (w.beginOpen streamId request path).1
      (w.beginOpen streamId request path).2 := by
  have refused (response : ServerResponse) :
      CallEffect w (.dispatch request) (w.answer response).1 (w.answer response).2 :=
    .unrelated (.refl w) nofun
  unfold beginOpen
  cases request.idempotencyKey with
  | none => exact refused _
  | some key =>
    dsimp only
    by_cases hp : w.statePoisoned = true
    · rw [if_pos hp]
      exact refused _
    · rw [if_neg hp]
      cases w.state.admit key (.openProject path) request.requestId with
      | some response => exact refused _
      | none =>
        dsimp only
        by_cases hr : request.requestId ∈ w.state.active
        · rw [if_pos hr]
          exact refused _
        · rw [if_neg hr]
          cases he : (w.register request.requestId path key).emitLocked streamId
              (.operationStarted request.requestId .openProject) with
          | error e => exact .undone request path method hr rfl rfl rfl rfl rfl
          | ok p =>
            obtain ⟨w', event⟩ := p
            obtain ⟨_, sequence, sub, chans, rfl⟩ := emitLocked_frame he
            exact .begun request key path method hr rfl rfl rfl rfl rfl

/-- A cancel request changes nothing or is executed. -/
theorem cancel_cases (w : World σ) (request : ClientRequest) (target : String) :
    (w.cancel request target).1 = w ∨ ∃ key completion, request.idempotencyKey = some key ∧
      w.statePoisoned = false ∧ key ∉ w.state.completed ∧ key ∉ w.state.inFlight ∧
      (w.cancel request target).1 = w.cancelled target completion := by
  unfold cancel
  cases hk : request.idempotencyKey with
  | none => exact .inl rfl
  | some key =>
    dsimp only
    split_ifs with hp
    · exact .inl rfl
    · cases ha : w.state.admit key (.cancelRequest target) request.requestId with
      | some response => exact .inl rfl
      | none =>
        obtain ⟨hc, hf⟩ := (admit_none_iff _ _ _ _).mp ha
        exact .inr ⟨key, _, rfl, by simpa using hp, hc, hf, rfl⟩

theorem cancel_effect (w : World σ) (request : ClientRequest) (target : String)
    (method : request.method = .cancelRequest target) :
    CallEffect w (.dispatch request) (w.cancel request target).1 (w.cancel request target).2 := by
  have refused (response : ServerResponse) :
      CallEffect w (.dispatch request) (w.answer response).1 (w.answer response).2 :=
    .unrelated (.refl w) nofun
  unfold cancel
  cases hk : request.idempotencyKey with
  | none => exact refused _
  | some key =>
    dsimp only
    by_cases hp : w.statePoisoned = true
    · rw [if_pos hp]
      exact refused _
    · rw [if_neg hp]
      cases ha : w.state.admit key (.cancelRequest target) request.requestId with
      | some response => exact refused _
      | none =>
        obtain ⟨hc, hf⟩ := (admit_none_iff _ _ _ _).mp ha
        cases hr : w.state.active.lookup target with
        | none =>
          refine .unrelated ⟨?_, rfl, rfl, rfl, rfl⟩ nofun
          simp only [cancelTarget, hr]
          split_ifs <;> rfl
        | some operation =>
          obtain ⟨flag⟩ := operation
          refine .flagged request target key flag method hk (by simpa using hp) hc hf hr ?_ ?_
            rfl rfl rfl rfl
          · simp only [cancelTarget, hr]
          · simp only [cancelTarget, hr]

theorem finishOpen_effect [StateRepository σ] (streamId : String) (w : World σ) {flag : FlagId}
    {call : OpenCall} (running : w.opens.lookup flag = some call)
    (result : Except ApplicationError Project) :
    CallEffect w (.finish flag) (w.finishOpen streamId flag call result).1
      (w.finishOpen streamId flag call result).2 := by
  unfold finishOpen
  split_ifs with hp
  · exact .finished flag call running rfl rfl rfl (.inr ⟨rfl, hp⟩) rfl
  · have same := settle_same streamId (w.remove flag call) call.request.requestId result
    exact .finished flag call running same.flags same.flagCount same.opens (.inl same.active)
      same.statePoisoned

/-- Every step has one of the effects. -/
theorem step_effect [StateRepository σ] {streamId : String} {w w' : World σ} {a : Action}
    {o : Output} (hs : w.step streamId a = some (w', o)) : CallEffect w a w' o := by
  cases step_stepped hs with
  | dispatched request =>
    unfold dispatch
    cases hm : request.method with
    | health => exact .unrelated (.refl w) fun flag h => by cases h
    | subscribeEvents => exact .unrelated (.refl w) fun flag h => by cases h
    | openProject path => exact beginOpen_effect streamId w request path hm
    | cancelRequest target => exact cancel_effect w request target hm
  | moved _ flag call execution running moves => exact .moved flag call execution running moves
  | finished flag call result running returned => exact finishOpen_effect streamId w running result
  | subscribed =>
    refine .unrelated ?_ fun flag h => by cases h
    unfold subscribe
    split_ifs
    · exact .refl w
    · exact ⟨rfl, rfl, rfl, rfl, rfl⟩
  | received ch r c known alive recv =>
    exact .unrelated ⟨rfl, rfl, rfl, rfl, rfl⟩ fun flag h => by cases h
  | hungUp ch known => exact .unrelated ⟨rfl, rfl, rfl, rfl, rfl⟩ fun flag h => by cases h
  | statePoisoned => exact .poisoned fun flag h => by cases h
  | repositoryPoisoned => exact .unrelated ⟨rfl, rfl, rfl, rfl, rfl⟩ fun flag h => by cases h

/-- Calls own their flags, and an active entry leads to a call of its own request. -/
structure Entries (w : World σ) : Prop where
  cancellation : ∀ f c, w.opens.lookup f = some c → c.cancellation = f ∧ f < w.flagCount
  target : ∀ r f, w.state.active.lookup r = some ⟨f⟩ →
    f < w.flagCount ∧ ∀ c, w.opens.lookup f = some c → c.request.requestId = r

/-- Where the lock is not poisoned, an active entry leads to a call in progress. -/
def Running (w : World σ) : Prop :=
  w.statePoisoned = false → ∀ r f, w.state.active.lookup r = some ⟨f⟩ →
    ∃ c, w.opens.lookup f = some c

/-- Where the lock is not poisoned, a call in progress has its active entry. -/
def Listed (w : World σ) : Prop :=
  w.statePoisoned = false → ∀ f c, w.opens.lookup f = some c →
    w.state.active.lookup c.request.requestId = some ⟨f⟩

section Effects

variable {w w' : World σ} {a : Action} {o : Output}

theorem lookup_advance {flag f : FlagId} {call c : OpenCall} {execution : Execution}
    (h : (w.advance flag call execution).opens.lookup f = some c) :
    f = flag ∧ c = { call with execution := execution } ∨ f ≠ flag ∧ w.opens.lookup f = some c := by
  change (w.opens.insert flag { call with execution := execution }).lookup f = some c at h
  rw [Assoc.lookup_insert_ite] at h
  split_ifs at h with hf
  · exact .inl ⟨hf, (Option.some.inj h).symm⟩
  · exact .inr ⟨hf, h⟩

/-- What an entry left by a step says of the entries before it. -/
theorem active_of_undone {requestId r : String} {f : FlagId}
    (active : w'.state.active =
      (w.state.active.insert requestId ⟨w.flagCount⟩).erase requestId)
    (h : w'.state.active.lookup r = some ⟨f⟩) : w.state.active.lookup r = some ⟨f⟩ := by
  rw [active, Assoc.lookup_erase_ite, Assoc.lookup_insert_ite] at h
  split_ifs at h
  exact h

theorem active_of_finished {requestId r : String} {f : FlagId}
    (active : w'.state.active = w.state.active.erase requestId ∨
      w'.state.active = w.state.active ∧ w'.statePoisoned = true)
    (h : w'.state.active.lookup r = some ⟨f⟩) : w.state.active.lookup r = some ⟨f⟩ := by
  rcases active with he | he
  · rw [he, Assoc.lookup_erase_ite] at h
    split_ifs at h
    exact h
  · exact he.1 ▸ h

theorem effect_entries (h : Entries w) (effect : CallEffect w a w' o) : Entries w' := by
  cases effect with
  | unrelated same _ =>
    constructor
    · rw [same.opens, same.flagCount]
      exact h.cancellation
    · rw [same.opens, same.flagCount, same.active]
      exact h.target
  | poisoned _ => exact ⟨h.cancellation, h.target⟩
  | begun request key path _ _ _ flagCount opens active _ =>
    constructor
    · intro f c hc
      rw [opens, Assoc.lookup_insert_ite] at hc
      rw [flagCount]
      split_ifs at hc with hf
      · rw [← Option.some.inj hc]
        exact ⟨hf.symm, hf ▸ Nat.lt_succ_self _⟩
      · have kept := h.cancellation f c hc
        exact ⟨kept.1, Nat.lt_succ_of_lt kept.2⟩
    · intro r f hr
      rw [active, Assoc.lookup_insert_ite] at hr
      rw [flagCount, opens]
      split_ifs at hr with hreq
      · obtain rfl : w.flagCount = f := congrArg ActiveOperation.cancellation (Option.some.inj hr)
        refine ⟨Nat.lt_succ_self _, ?_⟩
        intro c hc
        rw [AList.lookup_insert] at hc
        rw [← Option.some.inj hc, hreq]
      · have kept := h.target r f hr
        refine ⟨Nat.lt_succ_of_lt kept.1, ?_⟩
        rw [Assoc.lookup_insert_ite, if_neg (Nat.ne_of_lt kept.1)]
        exact kept.2
  | undone request _ _ _ _ flagCount opens active _ =>
    constructor
    · intro f c hc
      rw [flagCount]
      have kept := h.cancellation f c (opens ▸ hc)
      exact ⟨kept.1, Nat.lt_succ_of_lt kept.2⟩
    · intro r f hr
      rw [flagCount, opens]
      have kept := h.target r f (active_of_undone active hr)
      exact ⟨Nat.lt_succ_of_lt kept.1, kept.2⟩
  | flagged _ _ _ _ _ _ _ _ _ _ _ _ flagCount opens active _ =>
    constructor
    · rw [opens, flagCount]
      exact h.cancellation
    · rw [opens, flagCount, active]
      exact h.target
  | moved flag call execution running _ =>
    constructor
    · intro f c hc
      rcases lookup_advance hc with ⟨rfl, rfl⟩ | ⟨_, hc⟩
      · exact h.cancellation f call running
      · exact h.cancellation f c hc
    · intro r f hr
      have kept := h.target r f hr
      refine ⟨kept.1, fun c hc => ?_⟩
      rcases lookup_advance hc with ⟨rfl, rfl⟩ | ⟨_, hc⟩
      · exact kept.2 call running
      · exact kept.2 c hc
  | finished flag call running _ flagCount opens active _ =>
    have look {f : FlagId} {c : OpenCall} (hc : w'.opens.lookup f = some c) :
        w.opens.lookup f = some c := by
      rw [opens, Assoc.lookup_erase_ite] at hc
      split_ifs at hc
      exact hc
    constructor
    · intro f c hc
      rw [flagCount]
      exact h.cancellation f c (look hc)
    · intro r f hr
      rw [flagCount]
      have kept := h.target r f (active_of_finished active hr)
      exact ⟨kept.1, fun c hc => kept.2 c (look hc)⟩

theorem effect_running (entries : Entries w) (h : Running w) (effect : CallEffect w a w' o) :
    Running w' := by
  cases effect with
  | unrelated same _ =>
    unfold Running
    rw [same.opens, same.active, same.statePoisoned]
    exact h
  | poisoned _ => exact fun clean => absurd clean (by simp)
  | begun request key path _ _ _ _ opens active statePoisoned =>
    intro clean r f hr
    rw [active, Assoc.lookup_insert_ite] at hr
    rw [opens, Assoc.lookup_insert_ite]
    split_ifs at hr with hreq
    · obtain rfl : w.flagCount = f := congrArg ActiveOperation.cancellation (Option.some.inj hr)
      exact ⟨_, if_pos rfl⟩
    · rw [if_neg (Nat.ne_of_lt (entries.target r f hr).1)]
      exact h (statePoisoned ▸ clean) r f hr
  | undone request _ _ _ _ _ opens active statePoisoned =>
    intro clean r f hr
    rw [opens]
    exact h (statePoisoned ▸ clean) r f (active_of_undone active hr)
  | flagged _ _ _ _ _ _ _ _ _ _ _ _ _ opens active statePoisoned =>
    unfold Running
    rw [opens, active, statePoisoned]
    exact h
  | moved flag call execution running _ =>
    intro clean r f hr
    change ∃ c, (w.opens.insert flag { call with execution := execution }).lookup f = some c
    rw [Assoc.lookup_insert_ite]
    by_cases hf : f = flag
    · exact ⟨_, if_pos hf⟩
    · rw [if_neg hf]
      exact h clean r f hr
  | finished flag call running _ _ opens active statePoisoned =>
    intro clean r f hr
    have kept := active_of_finished active hr
    obtain ⟨c, hc⟩ := h (statePoisoned ▸ clean) r f kept
    rcases active with he | he
    · rw [he, Assoc.lookup_erase_ite] at hr
      split_ifs at hr with hne
      have other : f ≠ flag := by
        rintro rfl
        exact hne ((entries.target r f kept).2 call running).symm
      rw [opens, Assoc.lookup_erase_ite, if_neg other]
      exact ⟨c, hc⟩
    · exact absurd clean (by simp [he.2])

theorem effect_listed (h : Listed w) (effect : CallEffect w a w' o) :
    Listed w' := by
  cases effect with
  | unrelated same _ =>
    unfold Listed
    rw [same.opens, same.active, same.statePoisoned]
    exact h
  | poisoned _ => exact fun clean => absurd clean (by simp)
  | begun request key path _ idle _ _ opens active statePoisoned =>
    intro clean f c hc
    rw [opens, Assoc.lookup_insert_ite] at hc
    rw [active, Assoc.lookup_insert_ite]
    split_ifs at hc with hf
    · rw [← Option.some.inj hc, hf]
      exact if_pos rfl
    · have listed := h (statePoisoned ▸ clean) f c hc
      have other : c.request.requestId ≠ request.requestId := by
        intro same
        rw [same, AList.lookup_eq_none.mpr idle] at listed
        cases listed
      rw [if_neg other]
      exact listed
  | undone request _ _ idle _ _ opens active statePoisoned =>
    intro clean f c hc
    have listed := h (statePoisoned ▸ clean) f c (opens ▸ hc)
    have other : c.request.requestId ≠ request.requestId := by
      intro same
      rw [same, AList.lookup_eq_none.mpr idle] at listed
      cases listed
    rw [active, Assoc.lookup_erase_ite, if_neg other, Assoc.lookup_insert_ite, if_neg other]
    exact listed
  | flagged _ _ _ _ _ _ _ _ _ _ _ _ _ opens active statePoisoned =>
    unfold Listed
    rw [opens, active, statePoisoned]
    exact h
  | moved flag call execution running _ =>
    intro clean f c hc
    rcases lookup_advance hc with ⟨rfl, rfl⟩ | ⟨_, hc⟩
    · exact h clean f call running
    · exact h clean f c hc
  | finished flag call running _ _ opens active statePoisoned =>
    intro clean f c hc
    rw [opens, Assoc.lookup_erase_ite] at hc
    split_ifs at hc with hf
    have listed := h (statePoisoned ▸ clean) f c hc
    rcases active with he | he
    · have other : c.request.requestId ≠ call.request.requestId := by
        intro same
        have own := h (statePoisoned ▸ clean) flag call running
        rw [← same, listed] at own
        exact hf (congrArg ActiveOperation.cancellation (Option.some.inj own))
      rw [he, Assoc.lookup_erase_ite, if_neg other]
      exact listed
    · exact absurd clean (by simp [he.2])

end Effects

end World

end Kesharon.Daemon

import Kesharon.Daemon.CallEffects

namespace Kesharon.Daemon

open Framework Domain Protocol Application

namespace World

variable {σ : Type}

/-- No cancel request that is answered `Accepted` comes too late: one that is executed finds its
target before the end of the second check, and one that is replayed finds the flag of its
target set. -/
def timely (w : World σ) : Action → Bool
  | .dispatch request =>
    match request.method, request.idempotencyKey with
    | .cancelRequest target, some key =>
      match w.state.active.lookup target with
      | none => true
      | some operation =>
        w.statePoisoned ||
          match w.state.completed.lookup key with
          | some done =>
            done.fingerprint ≠ .cancelRequest target ||
              done.response.result ≠ some (.cancellation target .accepted) ||
              w.flags operation.cancellation
          | none =>
            (w.state.inFlight.lookup key).isSome ||
              !(w.opens.lookup operation.cancellation).any fun c => c.execution.pastChecks
    | _, _ => true
  | _ => true

/-- A set flag and a project to open exclude each other, in the calls in progress. -/
structure Cancellable (w : World σ) : Prop where
  cancellation : ∀ f c, w.opens.lookup f = some c → c.cancellation = f ∧ f < w.flagCount
  target : ∀ r f, w.state.active.lookup r = some ⟨f⟩ →
    f < w.flagCount ∧ ∀ c, w.opens.lookup f = some c → c.request.requestId = r
  running : w.statePoisoned = false → ∀ r f, w.state.active.lookup r = some ⟨f⟩ →
    ∃ c, w.opens.lookup f = some c
  won : ∀ f c, w.opens.lookup f = some c → w.flags f = true → c.execution.pastChecks = false

theorem Cancellable.entries {w : World σ} (h : Cancellable w) : Entries w :=
  ⟨h.cancellation, h.target⟩

/-- A call that does not open a project reports its own request, opens nothing, saves nothing
and leaves project and store as they are. -/
theorem finishOpen_error [StateRepository σ] (streamId : String) (w : World σ) (flag : FlagId)
    (call : OpenCall) (e : ApplicationError) :
    let finished := w.finishOpen streamId flag call (.error e)
    (∃ response, finished.2.response = some response ∧
      response.requestId = call.request.requestId ∧
      ∀ p, response.result ≠ some (.projectOpened p)) ∧
    (∀ event ∈ finished.2.events, ∀ r p, event.payload ≠ .projectOpened r p) ∧
    finished.2.saved = none ∧ finished.1.state.project = w.state.project ∧
    finished.1.stateRepository = w.stateRepository := by
  have emits (payload : DaemonEventPayload) (code : ErrorCode) (message : String)
      (other : ∀ r p, payload ≠ .projectOpened r p) :
      let settled := (w.remove flag call).emitAndRespond streamId call.request.requestId payload id
        (.failure call.request.requestId code message)
      settled.response.requestId = call.request.requestId ∧ settled.response.result = none ∧
        (∀ event ∈ settled.events, ∀ r p, event.payload ≠ .projectOpened r p) ∧
        settled.world.state.project = w.state.project ∧
        settled.world.stateRepository = w.stateRepository := by
    unfold emitAndRespond
    cases he : (w.remove flag call).emitLocked streamId payload with
    | error e => exact ⟨rfl, rfl, by simp, rfl, rfl⟩
    | ok q =>
      obtain ⟨w', event⟩ := q
      obtain ⟨hp, sequence, sub, chans, rfl⟩ := emitLocked_frame he
      refine ⟨rfl, rfl, ?_, rfl, rfl⟩
      intro event' hmem r p
      obtain rfl := List.mem_singleton.mp hmem
      rw [hp]
      exact other r p
  unfold finishOpen
  split_ifs
  · exact ⟨⟨_, rfl, rfl, nofun⟩, by simp [answer], rfl, rfl, rfl⟩
  · obtain ⟨payload, code, message, other, hs⟩ : ∃ payload code message,
        (∀ r p, payload ≠ DaemonEventPayload.projectOpened r p) ∧
        (w.remove flag call).settle streamId call.request.requestId (.error e) =
          ((w.remove flag call).emitAndRespond streamId call.request.requestId payload id
            (.failure call.request.requestId code message), none) := by
      cases e with
      | cancelled => exact ⟨.operationCancelled _, _, _, by simp, rfl⟩
      | repository message =>
        exact ⟨.operationFailed _ (classifyApplicationError (.repository message)).1
          (classifyApplicationError (.repository message)).2, _, _, by simp, rfl⟩
      | invalidProject message => exact ⟨.operationFailed _ _ _, _, _, by simp, rfl⟩
      | storage message => exact ⟨.operationFailed _ _ _, _, _, by simp, rfl⟩
      | vault message => exact ⟨.operationFailed _ _ _, _, _, by simp, rfl⟩
    obtain ⟨hid, hresult, hevents, hproject, hstore⟩ := emits payload code message other
    rw [hs]
    exact ⟨⟨_, rfl, hid, fun p => by rw [hresult]; exact nofun⟩, hevents, rfl, hproject, hstore⟩

/-- Flags that are set stay set, and calls keep their requests. -/
structure Kept (w w' : World σ) : Prop where
  count : w.flagCount ≤ w'.flagCount
  flags : ∀ f < w.flagCount, w.flags f = true → w'.flags f = true
  calls : ∀ f < w.flagCount, ∀ c', w'.opens.lookup f = some c' →
    ∃ c, w.opens.lookup f = some c ∧ c.request = c'.request

namespace Kept

variable {w w' w'' : World σ}

theorem of_eq (flags : w'.flags = w.flags) (flagCount : w'.flagCount = w.flagCount)
    (opens : w'.opens = w.opens) : Kept w w' :=
  ⟨Nat.le_of_eq flagCount.symm, fun f _ hf => by rw [flags]; exact hf,
    fun f _ c hc => ⟨c, opens ▸ hc, rfl⟩⟩

theorem of_new (flags : w'.flags = Function.update w.flags w.flagCount false)
    (flagCount : w'.flagCount = w.flagCount + 1)
    (opens : ∀ f < w.flagCount, w'.opens.lookup f = w.opens.lookup f) : Kept w w' := by
  refine ⟨by rw [flagCount]; exact Nat.le_succ _, ?_, ?_⟩
  · intro f hlt hf
    rw [flags, Function.update_of_ne (Nat.ne_of_lt hlt)]
    exact hf
  · intro f hlt c hc
    exact ⟨c, opens f hlt ▸ hc, rfl⟩

theorem of_move {flag : FlagId} {c : OpenCall} (hc : w.opens.lookup flag = some c)
    (e : Execution) : Kept w (w.advance flag c e) := by
  refine ⟨Nat.le_refl _, fun _ _ hf => hf, ?_⟩
  intro f _ d hd
  change (w.opens.insert flag { c with execution := e }).lookup f = some d at hd
  rw [Assoc.lookup_insert_ite] at hd
  split_ifs at hd with hf
  · rw [hf, ← Option.some.inj hd]
    exact ⟨c, hc, rfl⟩
  · exact ⟨d, hd, rfl⟩

theorem of_erase {flag : FlagId} (flags : w'.flags = w.flags)
    (flagCount : w'.flagCount = w.flagCount) (opens : w'.opens = w.opens.erase flag) :
    Kept w w' := by
  refine ⟨Nat.le_of_eq flagCount.symm, fun f _ hf => by rw [flags]; exact hf, ?_⟩
  intro f _ d hd
  rw [opens, Assoc.lookup_erase_ite] at hd
  split_ifs at hd
  exact ⟨d, hd, rfl⟩

theorem trans (h : Kept w w') (h' : Kept w' w'') : Kept w w'' := by
  refine ⟨Nat.le_trans h.count h'.count, ?_, ?_⟩
  · intro f hlt hf
    exact h'.flags f (Nat.lt_of_lt_of_le hlt h.count) (h.flags f hlt hf)
  · intro f hlt c hc
    obtain ⟨d, hd, hreq⟩ := h'.calls f (Nat.lt_of_lt_of_le hlt h.count) c hc
    obtain ⟨e, he, hreq'⟩ := h.calls f hlt d hd
    exact ⟨e, he, hreq'.trans hreq⟩

end Kept

/-- A timely request that is executed finds its target before the end of its checks. -/
theorem timely_executed {w : World σ} {request : ClientRequest} {target key : String}
    {flag : FlagId} (ok : w.timely (.dispatch request) = true)
    (method : request.method = .cancelRequest target) (keyed : request.idempotencyKey = some key)
    (clean : w.statePoisoned = false) (notCompleted : key ∉ w.state.completed)
    (notInFlight : key ∉ w.state.inFlight)
    (running : w.state.active.lookup target = some ⟨flag⟩) :
    ∀ c, w.opens.lookup flag = some c → c.execution.pastChecks = false := by
  intro c hc
  have hdone := AList.lookup_eq_none.mpr notCompleted
  have hidle := AList.lookup_eq_none.mpr notInFlight
  simpa [timely, method, keyed, running, clean, hdone, hidle, hc] using ok

/-- A timely request that is replayed finds the flag of its target set. -/
theorem timely_replayed {w : World σ} {request : ClientRequest} {target key : String}
    {flag : FlagId} {done : CompletedMutation} (ok : w.timely (.dispatch request) = true)
    (method : request.method = .cancelRequest target) (keyed : request.idempotencyKey = some key)
    (clean : w.statePoisoned = false) (completed : w.state.completed.lookup key = some done)
    (same : done.fingerprint = .cancelRequest target)
    (accepted : done.response.result = some (.cancellation target .accepted))
    (running : w.state.active.lookup target = some ⟨flag⟩) : w.flags flag = true := by
  simpa [timely, method, keyed, running, clean, completed, same, accepted] using ok

theorem moves_stops {w : World σ} (h : Cancellable w) {flag : FlagId} {call : OpenCall} {a : Action}
    {execution : Execution} (running : w.opens.lookup flag = some call)
    (moves : Moves w flag call a execution) (isSet : w.flags flag = true) :
    execution.pastChecks = false := by
  cases moves with
  | firstCheck _ => exact Execution.pastChecks_firstCheck _
  | inspectReturns answer _ => exact Execution.pastChecks_inspectReturns answer
  | secondCheck inspection nextId _ =>
    rw [(h.cancellation flag call running).1, isSet]
    exact Execution.pastChecks_secondCheck_cancelled _ _ _

/-- A timely step keeps set flags and projects to open apart. -/
theorem effect_won {w w' : World σ} {a : Action} {o : Output} (h : Cancellable w)
    (ok : w.timely a = true) (effect : CallEffect w a w' o) :
    ∀ f c, w'.opens.lookup f = some c → w'.flags f = true → c.execution.pastChecks = false := by
  intro f c hc isSet
  cases effect with
  | unrelated same _ =>
    rw [same.opens] at hc
    rw [same.flags] at isSet
    exact h.won f c hc isSet
  | poisoned _ => exact h.won f c hc isSet
  | begun request key path _ _ flags _ opens _ _ =>
    rw [opens, Assoc.lookup_insert_ite] at hc
    rw [flags] at isSet
    split_ifs at hc with hf
    · rw [← Option.some.inj hc]
      rfl
    · rw [Function.update_of_ne hf] at isSet
      exact h.won f c hc isSet
  | undone request _ _ _ flags _ opens _ _ =>
    rw [opens] at hc
    rw [flags, Function.update_of_ne (Nat.ne_of_lt (h.cancellation f c hc).2)] at isSet
    exact h.won f c hc isSet
  | flagged request target key flag method keyed clean notCompleted notInFlight running _ flags
      _ opens _ _ =>
    rw [opens] at hc
    rw [flags] at isSet
    by_cases hf : f = flag
    · subst f
      exact timely_executed ok method keyed clean notCompleted notInFlight running c hc
    · rw [Function.update_of_ne hf] at isSet
      exact h.won f c hc isSet
  | moved flag call execution running moves =>
    rcases lookup_advance hc with ⟨rfl, rfl⟩ | ⟨_, hc⟩
    · exact moves_stops h running moves isSet
    · exact h.won f c hc isSet
  | finished flag call _ flags _ opens _ _ =>
    rw [opens, Assoc.lookup_erase_ite] at hc
    rw [flags] at isSet
    split_ifs at hc
    exact h.won f c hc isSet

theorem effect_kept {w w' : World σ} {a : Action} {o : Output} (effect : CallEffect w a w' o) :
    Kept w w' := by
  cases effect with
  | unrelated same _ => exact .of_eq same.flags same.flagCount same.opens
  | poisoned _ => exact .of_eq rfl rfl rfl
  | begun request key path _ _ flags flagCount opens _ _ =>
    refine .of_new flags flagCount fun f hlt => ?_
    rw [opens]
    exact AList.lookup_insert_ne (Nat.ne_of_lt hlt)
  | undone request _ _ _ flags flagCount opens _ _ =>
    exact .of_new flags flagCount (fun _ _ => by rw [opens])
  | flagged _ _ _ flag _ _ _ _ _ _ _ flags flagCount opens _ _ =>
    refine ⟨Nat.le_of_eq flagCount.symm, ?_, fun f _ c hc => ⟨c, opens ▸ hc, rfl⟩⟩
    intro f _ isSet
    rw [flags]
    by_cases hf : f = flag
    · rw [hf, Function.update_self]
    · rw [Function.update_of_ne hf]
      exact isSet
  | moved flag call execution running _ => exact .of_move running _
  | finished flag call _ flags flagCount opens _ _ => exact .of_erase flags flagCount opens

theorem step_cancellable [StateRepository σ] {streamId : String} {w w' : World σ} {a : Action}
    {o : Output} (h : Cancellable w) (ok : w.timely a = true)
    (hs : w.step streamId a = some (w', o)) : Cancellable w' ∧ Kept w w' := by
  have effect := step_effect hs
  have entries := effect_entries h.entries effect
  exact ⟨⟨entries.cancellation, entries.target, effect_running h.entries h.running effect,
    effect_won h ok effect⟩, effect_kept effect⟩

/-- A mutation decided by its key has a result only if it is replayed. -/
theorem admit_result {s : SessionState} {key requestId : String} {fp : MutationFingerprint}
    {response : ServerResponse} {result : ResponsePayload}
    (h : s.admit key fp requestId = some response) (hr : response.result = some result) :
    ∃ done, s.completed.lookup key = some done ∧ done.fingerprint = fp ∧
      done.response.result = some result := by
  unfold SessionState.admit at h
  cases hc : s.completed.lookup key with
  | some done =>
    simp only [hc] at h
    split_ifs at h with hne
    · rw [← Option.some.inj h] at hr
      exact absurd hr (by simp [idempotencyConflict, ServerResponse.failure])
    · rw [← Option.some.inj h] at hr
      exact ⟨done, rfl, by simpa using hne, hr⟩
  | none =>
    simp only [hc] at h
    cases hf : s.inFlight.lookup key with
    | none => simp [hf] at h
    | some running =>
      simp only [hf] at h
      split_ifs at h <;> rw [← Option.some.inj h] at hr
      · exact absurd hr (by simp [idempotencyConflict, ServerResponse.failure])
      · exact absurd hr (by simp [keyInProgress, ServerResponse.failure])

/-- A timely cancel request that is answered `Accepted` leaves the flag of its running target
set. -/
theorem accepted_flag [StateRepository σ] {streamId : String} {w w' : World σ}
    {request : ClientRequest} {target : String} {flag : FlagId} {o : Output}
    {response : ServerResponse} (ok : w.timely (.dispatch request) = true)
    (method : request.method = .cancelRequest target)
    (running : w.state.active.lookup target = some ⟨flag⟩)
    (hs : w.step streamId (.dispatch request) = some (w', o)) (answer : o.response = some response)
    (accepted : response.result = some (.cancellation target .accepted)) :
    w'.flags flag = true := by
  obtain ⟨rfl, rfl⟩ := Prod.mk.inj (Option.some.inj hs)
  change (w.dispatch streamId request).2.response = some response at answer
  change (w.dispatch streamId request).1.flags flag = true
  unfold dispatch at answer ⊢
  simp only [method] at answer ⊢
  unfold cancel at answer ⊢
  cases hk : request.idempotencyKey with
  | none =>
    simp only [hk] at answer
    rw [← Option.some.inj answer] at accepted
    exact absurd accepted (by simp [internalError, ServerResponse.failure])
  | some key =>
    simp only [hk] at answer ⊢
    by_cases hp : w.statePoisoned = true
    · rw [if_pos hp] at answer
      rw [← Option.some.inj answer] at accepted
      exact absurd accepted (by simp [internalError, ServerResponse.failure])
    · rw [if_neg hp] at answer ⊢
      have clean : w.statePoisoned = false := by simpa using hp
      cases ha : w.state.admit key (.cancelRequest target) request.requestId with
      | some replayed =>
        simp only [ha] at answer ⊢
        rw [← Option.some.inj answer] at accepted
        obtain ⟨done, hc, same, hr⟩ := admit_result ha accepted
        exact timely_replayed ok method hk clean hc same hr running
      | none =>
        simp only [cancelTarget, running]
        exact Function.update_self _ _ _

end World

section Runs

variable {σ : Type} [StateRepository σ] {streamId : String} {w₀ u v x y : World σ}

/-- Only steps are taken whose cancel requests are timely. -/
abbrev timelyStep (w : World σ) (a : Action) (_ : World σ) : Prop := w.timely a = true

omit [StateRepository σ] in
theorem init_cancellable (project : Option ProjectSnapshot) (task : Option Task)
    (repo : Option σ) : (World.init project task repo).Cancellable := by
  constructor <;> simp [World.init, SessionState.new]

theorem run_cancellable {s t : World σ} {tr : List (Action × Output)}
    (run : (session σ streamId).Run timelyStep s tr t) (start : s.Cancellable) :
    t.Cancellable ∧ World.Kept s t := by
  apply run.invariant (I := fun t => t.Cancellable ∧ World.Kept s t)
  · exact ⟨start, .of_eq rfl rfl rfl⟩
  · intro t a u o h hok hs
    obtain ⟨hc, hkept⟩ := h
    obtain ⟨hc', hkept'⟩ := World.step_cancellable hc hok hs
    exact ⟨hc', hkept.trans hkept'⟩

/-- An accepted cancellation wins, in runs whose cancel requests are all timely: the call it
targets finishes without a project in its response, its events, the store or the session. -/
theorem accepted_cancellation_wins {tr tr' : List (Action × Output)} {target : String}
    {flag : FlagId} {o p : Output} {response : ServerResponse} (start : Started w₀)
    (before : (session σ streamId).Run timelyStep w₀ tr u) (request : ClientRequest)
    (method : request.method = .cancelRequest target)
    (running : u.state.active.lookup target = some ⟨flag⟩)
    (timely : u.timely (.dispatch request) = true)
    (cancel : (session σ streamId).step u (.dispatch request) = some (v, o))
    (answer : o.response = some response)
    (accepted : response.result = some (.cancellation target .accepted))
    (after : (session σ streamId).Run timelyStep v tr' x)
    (finish : (session σ streamId).step x (.finish flag) = some (y, p)) :
    (∃ last, p.response = some last ∧ last.requestId = target ∧
      ∀ project, last.result ≠ some (.projectOpened project)) ∧
    (∀ event ∈ p.events, ∀ r project, event.payload ≠ .projectOpened r project) ∧
    p.saved = none ∧ y.state.project = x.state.project ∧
    y.stateRepository = x.stateRepository := by
  have startCancellable : w₀.Cancellable := by
    obtain ⟨project, task, repo, rfl⟩ := start.init
    exact init_cancellable project task repo
  obtain ⟨hu, _⟩ := run_cancellable before startCancellable
  obtain ⟨hv, atCancel⟩ := World.step_cancellable hu timely cancel
  obtain ⟨hx, sinceCancel⟩ := run_cancellable after hv
  obtain ⟨known, targeted⟩ := hu.target target flag running
  have isSet : x.flags flag = true := sinceCancel.flags flag
    (Nat.lt_of_lt_of_le known atCancel.count)
    (World.accepted_flag timely method running cancel answer accepted)
  obtain ⟨call, result, hl, hcall, finishes⟩ := World.step_finish finish
  have stopped := hx.won flag call hl isSet
  cases result with
  | ok project => exact absurd stopped (by simp [hcall, Execution.pastChecks])
  | error e =>
    obtain ⟨c, hc, hreq⟩ := (atCancel.trans sinceCancel).calls flag known call hl
    have named : call.request.requestId = target := by
      rw [← hreq]
      exact targeted c hc
    have spared := World.finishOpen_error streamId x flag call e
    rw [finishes, named] at spared
    exact spared

end Runs

/-- A call is cancelled before its first check. -/
theorem accepted_cancellation_wins_early :
    ∃ tr u v x y o p tr', (session Empty "s").Run timelyStep World.new tr u ∧
      (session Empty "s").step u
        (.dispatch ⟨PROTOCOL_VERSION,"b",.cancelRequest "a",some "l"⟩) = some (v, o) ∧
      o.response = some (.success "b" (.cancellation "a" .accepted)) ∧
      (session Empty "s").Run timelyStep v tr' x ∧
      (session Empty "s").step x (.finish 0) = some (y, p) ∧ p.saved = none := by
  have before := Machine.run_of_exec_isSome (session Empty "s") timelyStep World.new [
    .dispatch ⟨PROTOCOL_VERSION,"a",.openProject "/p",some "k"⟩] (by decide)
  have after := Machine.run_of_exec_isSome (session Empty "s") timelyStep
    ((Machine.exec (session Empty "s") timelyStep World.new [
      .dispatch ⟨PROTOCOL_VERSION,"a",.openProject "/p",some "k"⟩,
      .dispatch ⟨PROTOCOL_VERSION,"b",.cancelRequest "a",some "l"⟩]).get (by decide)).2
    [.firstCheck 0] (by decide)
  have spared := accepted_cancellation_wins .new before
    ⟨PROTOCOL_VERSION,"b",.cancelRequest "a",some "l"⟩ rfl rfl rfl rfl rfl rfl after rfl
  exact ⟨_, _, _, _, _, _, _, _, before, rfl, rfl, after, rfl, spared.2.2.1⟩

/-- A call is cancelled after its second check: the request is accepted and the project opens. -/
theorem late_cancellation_loses :
    ∃ tr u v w o p, (session Empty "s").Run healthyStep World.new tr u ∧
      u.state.active.lookup "a" = some ⟨0⟩ ∧
      (session Empty "s").step u
        (.dispatch ⟨PROTOCOL_VERSION,"b",.cancelRequest "a",some "l"⟩) = some (v, o) ∧
      o.response = some (.success "b" (.cancellation "a" .accepted)) ∧
      (session Empty "s").step v (.finish 0) = some (w, p) ∧
      p.response = some (.success "a" (.projectOpened ⟨"id","name","/p",false⟩)) ∧
      w.state.project = some ⟨"id","name","/p",false⟩ := by
  have run := Machine.run_of_exec_isSome (session Empty "s") healthyStep World.new [
    .dispatch ⟨PROTOCOL_VERSION,"a",.openProject "/p",some "k"⟩,
    .firstCheck 0,
    .inspectReturns 0 (.ok ⟨"/p","name"⟩),
    .secondCheck 0 "id"] (by decide)
  exact ⟨_, _, _, _, _, _, run, rfl, rfl, rfl, rfl, rfl, rfl⟩

end Kesharon.Daemon

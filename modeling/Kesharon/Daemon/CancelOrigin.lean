import Kesharon.Daemon.CallEffects
import Kesharon.Daemon.Storage

namespace Kesharon.Daemon

open Framework Domain Protocol Application

/-- A call ends with `OperationCancelled`, in its response or in its event. -/
def Output.EndsCancelled (o : Output) : Prop :=
  (∃ response e, o.response = some response ∧ response.error = some e ∧
    e.code = .operationCancelled) ∨
    ∃ event ∈ o.events, ∃ r, event.payload = .operationCancelled r

/-- The repository does not answer `Cancelled` of its own accord. -/
def Action.honest : Action → Bool
  | .inspectReturns _ (.error .cancelled) => false
  | _ => true

namespace World

variable {σ : Type}

/-- A cancel request that is executed, not replayed, and finds its target running. -/
structure AcceptsCancel (w : World σ) (target : String) (request : ClientRequest) (o : Output) :
    Prop where
  method : request.method = .cancelRequest target
  fresh : ∃ key, request.idempotencyKey = some key ∧ key ∉ w.state.completed ∧
    key ∉ w.state.inFlight
  accepted : o.response = some (.success request.requestId (.cancellation target .accepted))

/-- A call whose flag is set or whose use case has returned `Cancelled`. -/
def Struck (w : World σ) (flag : FlagId) (call : OpenCall) : Prop :=
  w.flags flag = true ∨ call.execution = .returned (.error .cancelled)

section Step

variable {w w' : World σ} {a : Action} {o : Output} {flag : FlagId} {call : OpenCall}

/-- A call in progress was there before the step, or the step began it. -/
theorem step_origin (entries : Entries w) (effect : CallEffect w a w' o)
    (running : w'.opens.lookup flag = some call) :
    (∃ before, w.opens.lookup flag = some before ∧ before.request = call.request) ∨
      a = .dispatch call.request ∧ w.opens.lookup flag = none ∧ call.execution = .entered ∧
        w'.flags flag = false := by
  cases effect with
  | unrelated same _ => exact .inl ⟨call, same.opens ▸ running, rfl⟩
  | poisoned _ => exact .inl ⟨call, running, rfl⟩
  | begun request key path _ _ flags _ opens _ _ =>
    rw [opens, Assoc.lookup_insert_ite] at running
    split_ifs at running with new
    · obtain rfl := Option.some.inj running
      refine .inr ⟨rfl, ?_, rfl, ?_⟩
      · cases old : w.opens.lookup flag with
        | none => rfl
          | some c =>
          have known := (entries.cancellation flag c old).2
          rw [new] at known
          exact absurd known (Nat.lt_irrefl _)
      · rw [flags, new, Function.update_self]
    · exact .inl ⟨call, running, rfl⟩
  | undone request _ _ _ _ _ opens _ _ => exact .inl ⟨call, opens ▸ running, rfl⟩
  | flagged _ _ _ _ _ _ _ _ _ _ _ _ _ opens _ _ => exact .inl ⟨call, opens ▸ running, rfl⟩
  | moved other c execution here _ =>
    rcases lookup_advance running with ⟨rfl, rfl⟩ | ⟨_, running⟩
    · exact .inl ⟨c, here, rfl⟩
    · exact .inl ⟨call, running, rfl⟩
  | finished other c _ _ _ opens _ _ =>
    rw [opens, Assoc.lookup_erase_ite] at running
    split_ifs at running
    exact .inl ⟨call, running, rfl⟩

/-- A call reads its own flag: only a set one, or the repository, makes it return `Cancelled`. -/
theorem moves_cancelled {execution : Execution} (moves : Moves w flag call a execution)
    (honest : a.honest = true) (own : call.cancellation = flag)
    (returns : execution = .returned (.error .cancelled)) : w.flags flag = true := by
  cases moves with
  | firstCheck _ =>
    rw [own] at returns
    cases isSet : w.flags flag with
    | true => rfl
    | false => simp [isSet, Execution.firstCheck] at returns
  | inspectReturns answer _ =>
    cases answer with
    | ok inspection => cases returns
    | error e =>
      cases returns
      cases honest
  | secondCheck inspection nextId _ =>
    rw [own] at returns
    cases isSet : w.flags flag with
    | true => rfl
    | false =>
      simp only [isSet, Execution.secondCheck, Bool.false_eq_true, if_false,
        Execution.buildProject] at returns
      split at returns
      · cases returns
      · split at returns <;> cases returns

/-- A call that is struck was struck before the step, or the step accepts a cancel request for
it. -/
theorem step_cause (entries : Entries w) (honest : a.honest = true) (effect : CallEffect w a w' o)
    (running : w'.opens.lookup flag = some call) (struck : w'.Struck flag call) :
    ∃ before, w.opens.lookup flag = some before ∧ before.request = call.request ∧
      (w.Struck flag before ∨ ∃ request, a = .dispatch request ∧
        w.AcceptsCancel call.request.requestId request o) := by
  unfold Struck at struck
  cases effect with
  | unrelated same _ =>
    rw [same.flags] at struck
    exact ⟨call, same.opens ▸ running, rfl, .inl struck⟩
  | poisoned _ => exact ⟨call, running, rfl, .inl struck⟩
  | begun request key path _ _ flags _ opens _ _ =>
    rw [opens, Assoc.lookup_insert_ite] at running
    rw [flags] at struck
    split_ifs at running with new
    · rw [← Option.some.inj running, new, Function.update_self] at struck
      rcases struck with isSet | returned
      · cases isSet
      · cases returned
    · rw [Function.update_of_ne new] at struck
      exact ⟨call, running, rfl, .inl struck⟩
  | undone request _ _ _ flags _ opens _ _ =>
    rw [opens] at running
    rw [flags, Function.update_of_ne (Nat.ne_of_lt (entries.cancellation flag call running).2)]
      at struck
    exact ⟨call, running, rfl, .inl struck⟩
  | flagged request target key hit method keyed _ notCompleted notInFlight targeted answer flags
      _ opens _ _ =>
    rw [opens] at running
    rw [flags] at struck
    refine ⟨call, running, rfl, ?_⟩
    by_cases here : flag = hit
    · subst flag
      obtain rfl := (entries.target target hit targeted).2 call running
      exact .inr ⟨request, rfl, method, ⟨key, keyed, notCompleted, notInFlight⟩, answer⟩
    · rw [Function.update_of_ne here] at struck
      exact .inl struck
  | moved other c execution here moves =>
    rcases lookup_advance running with ⟨rfl, rfl⟩ | ⟨_, running⟩
    · refine ⟨c, here, rfl, .inl (.inl ?_)⟩
      rcases struck with isSet | returned
      · exact isSet
      · exact moves_cancelled moves honest (entries.cancellation flag c here).1 returned
    · exact ⟨call, running, rfl, .inl struck⟩
  | finished other c _ flags _ opens _ _ =>
    rw [opens, Assoc.lookup_erase_ite] at running
    rw [flags] at struck
    split_ifs at running
    exact ⟨call, running, rfl, .inl struck⟩

/-- A cancel request leaves every call where it is, and every flag but that of its target. -/
theorem cancel_spares (entries : Entries w) {request : ClientRequest} {target : String}
    (method : request.method = .cancelRequest target)
    (effect : CallEffect w (.dispatch request) w' o) :
    w'.opens = w.opens ∧ ∀ flag call, w.opens.lookup flag = some call →
      ¬ w.AcceptsCancel call.request.requestId request o → w'.flags flag = w.flags flag := by
  cases effect with
  | unrelated same _ => exact ⟨same.opens, fun _ _ _ _ => by rw [same.flags]⟩
  | poisoned _ => exact ⟨rfl, fun _ _ _ _ => rfl⟩
  | begun _ _ path opens _ _ _ _ _ _ =>
    rw [method] at opens
    cases opens
  | undone _ path opens _ _ _ _ _ _ =>
    rw [method] at opens
    cases opens
  | flagged _ target key hit method keyed _ notCompleted notInFlight targeted answer flags
      _ opens _ _ =>
    refine ⟨opens, fun flag call running other => ?_⟩
    rw [flags]
    apply Function.update_of_ne
    rintro rfl
    obtain rfl := (entries.target target flag targeted).2 call running
    exact other ⟨method, ⟨key, keyed, notCompleted, notInFlight⟩, answer⟩
  | moved _ _ _ _ moves => cases moves

end Step

/-- Neither the response nor an event of what was settled says `OperationCancelled`. -/
def Settled.Uncancelled (settled : Settled σ) : Prop :=
  (∀ e, settled.response.error = some e → e.code ≠ .operationCancelled) ∧
    ∀ event ∈ settled.events, ∀ r, event.payload ≠ .operationCancelled r

theorem internalError_uncancelled (w : World σ) (requestId : String) :
    Settled.Uncancelled ⟨w,internalError requestId,[]⟩ := by
  refine ⟨?_, by simp⟩
  rintro e failed
  rw [← Option.some.inj failed]
  exact nofun

theorem emitAndRespond_uncancelled {streamId : String} {w : World σ} {requestId : String}
    {payload : DaemonEventPayload} {after : World σ → World σ} {response : ServerResponse}
    (event : ∀ r, payload ≠ .operationCancelled r)
    (answer : ∀ e, response.error = some e → e.code ≠ .operationCancelled) :
    (w.emitAndRespond streamId requestId payload after response).Uncancelled := by
  unfold emitAndRespond
  cases emits : w.emitLocked streamId payload with
  | error e => exact internalError_uncancelled w requestId
  | ok p =>
    refine ⟨answer, ?_⟩
    intro sent among r
    obtain rfl := List.mem_singleton.mp among
    rw [(emitLocked_frame emits).1]
    exact event r

theorem completeFailure_uncancelled {streamId : String} {w : World σ} {requestId : String}
    {e : ApplicationError} (other : e ≠ .cancelled) :
    (w.completeFailure streamId requestId e).Uncancelled := by
  have code : (classifyApplicationError e).1 ≠ .operationCancelled := by
    cases e with
    | cancelled => exact absurd rfl other
    | repository message =>
      simp only [classifyApplicationError]
      split_ifs <;> simp
    | _ => simp [classifyApplicationError]
  refine emitAndRespond_uncancelled (fun _ => DaemonEventPayload.noConfusion) ?_
  rintro payload failed
  rw [← Option.some.inj failed]
  exact code

section Stores

variable [StateRepository σ]

theorem settle_uncancelled
    (never : ∀ p (repo : σ), (StateRepository.saveProject p repo).1 ≠ .error .cancelled)
    (streamId : String) (w : World σ) (requestId : String)
    {result : Except ApplicationError Project} (other : result ≠ .error .cancelled) :
    (w.settle streamId requestId result).1.Uncancelled := by
  have success (v : World σ) (p : Project) :
      (v.completeSuccess streamId requestId p).Uncancelled :=
    emitAndRespond_uncancelled nofun nofun
  cases result with
  | ok p =>
    unfold settle
    dsimp only
    cases w.stateRepository with
    | none => exact success w p
    | some repo =>
      dsimp only
      split_ifs
      · exact internalError_uncancelled w requestId
      · have fails := never p repo
        cases saves : StateRepository.saveProject p repo with
        | mk answer repo' =>
          cases answer with
          | ok u => exact success _ p
          | error e =>
            apply completeFailure_uncancelled
            rintro rfl
            rw [saves] at fails
            exact fails rfl
  | error e =>
    cases e with
    | cancelled => exact absurd rfl other
    | repository message => exact completeFailure_uncancelled nofun
    | invalidProject message => exact completeFailure_uncancelled nofun
    | storage message => exact completeFailure_uncancelled nofun
    | vault message => exact completeFailure_uncancelled nofun

/-- A call ends with `OperationCancelled` only where its use case has returned `Cancelled`. -/
theorem result_of_endsCancelled
    (never : ∀ p (repo : σ), (StateRepository.saveProject p repo).1 ≠ .error .cancelled)
    {streamId : String} {w : World σ} {flag : FlagId} {call : OpenCall}
    {result : Except ApplicationError Project}
    (ends : (w.finishOpen streamId flag call result).2.EndsCancelled) :
    result = .error .cancelled := by
  by_contra other
  unfold finishOpen at ends
  split_ifs at ends with poisoned
  · rcases ends with ⟨response, e, answer, failed, code⟩ | ⟨event, among, _⟩
    · obtain rfl := Option.some.inj answer
      rw [← Option.some.inj failed] at code
      cases code
    · cases among
  · have settled :=
      settle_uncancelled never streamId (w.remove flag call) call.request.requestId other
    rcases ends with ⟨response, e, answer, failed, code⟩ | ⟨event, among, r, payload⟩
    · obtain rfl := Option.some.inj answer
      exact settled.1 e failed code
    · exact settled.2 event among r payload

end Stores

/-- The store of the daemon never answers `Cancelled`. -/
theorem saveProject_ne_cancelled (p : Project) (repo : SqliteStateRepository) :
    (StateRepository.saveProject p repo).1 ≠ .error .cancelled := by
  obtain ⟨c, poisoned⟩ := repo
  cases poisoned with
  | true => exact nofun
  | false =>
    change (c.saveProject p).1 ≠ _
    unfold Connection.saveProject
    cases c.execute (Database.upsertProject (projectParams p)) with
    | mk r d =>
      cases r with
      | error e => exact nofun
      | ok u =>
        dsimp only
        cases d.execute (Database.upsertMetadata
            ⟨.text "last_active_project_id",.text p.id.asStr⟩) with
        | mk r' d' => cases r' <;> exact nofun

end World

abbrev honestStep {σ : Type} (_ : World σ) (a : Action) (_ : World σ) : Prop := a.honest = true

section Runs

variable {σ : Type} [StateRepository σ] {streamId : String} {w₀ w : World σ}
variable {tr : List (Action × Output)}

theorem run_entries (run : (session σ streamId).Run honestStep w₀ tr w)
    (start : w₀.Entries ∧ w₀.Listed) : w.Entries ∧ w.Listed := by
  apply run.invariant (I := fun w => w.Entries ∧ w.Listed) start
  rintro t a u o ⟨entries, listed⟩ _ step
  have effect := World.step_effect step
  exact ⟨World.effect_entries entries effect, World.effect_listed listed effect⟩

/-- Every call in progress was begun by a step of the run. -/
theorem run_origin {flag : FlagId} {call : OpenCall} (start : w₀.Entries ∧ w₀.Listed)
    (idle : w₀.opens.lookup flag = none)
    (run : (session σ streamId).Run honestStep w₀ tr w)
    (running : w.opens.lookup flag = some call) :
    ∃ xs o ys u u' begun, tr = xs ++ (.dispatch call.request, o) :: ys ∧
      (session σ streamId).Run honestStep w₀ xs u ∧
      (session σ streamId).step u (.dispatch call.request) = some (u', o) ∧
      u.opens.lookup flag = none ∧ u'.opens.lookup flag = some begun ∧
      begun.request = call.request ∧ ¬ u'.Struck flag begun ∧
      (session σ streamId).Run honestStep u' ys w := by
  induction run generalizing call with
  | nil => rw [idle] at running; cases running
  | @snoc t u tr a o before allowed step ih =>
    have entries := (run_entries before start).1
    rcases World.step_origin entries (World.step_effect step) running with
      ⟨c, earlier, same⟩ | ⟨rfl, absent, entered, unset⟩
    · obtain ⟨xs, o', ys, v, v', begun, rfl, first, begins, none, some, request, fresh, rest⟩ :=
        ih earlier
      rw [same] at begins request
      refine ⟨xs, o', ys ++ [(a, o)], v, v', begun, ?_, first, begins, none, some, request, fresh,
        rest.snoc allowed step⟩
      rw [same]
      simp
    · refine ⟨tr, o, [], t, u, call, rfl, before, step, absent, running, rfl, ?_, .nil u⟩
      rintro (isSet | returned)
      · rw [unset] at isSet
        cases isSet
      · rw [entered] at returned
        cases returned

/-- A call is struck by a cancel request that a step of the run accepts for it. -/
theorem run_cause {flag : FlagId} {begun call : OpenCall} (start : w₀.Entries ∧ w₀.Listed)
    (begins : w₀.opens.lookup flag = some begun) (unstruck : ¬ w₀.Struck flag begun)
    (run : (session σ streamId).Run honestStep w₀ tr w)
    (running : w.opens.lookup flag = some call) (struck : w.Struck flag call) :
    ∃ xs request o ys u u', tr = xs ++ (.dispatch request, o) :: ys ∧
      (session σ streamId).Run honestStep w₀ xs u ∧
      (session σ streamId).step u (.dispatch request) = some (u', o) ∧
      u.AcceptsCancel call.request.requestId request o ∧
      (session σ streamId).Run honestStep u' ys w := by
  induction run generalizing call with
  | nil =>
    obtain rfl := Option.some.inj (begins.symm.trans running)
    exact absurd struck unstruck
  | @snoc t u tr a o before allowed step ih =>
    have entries := (run_entries before start).1
    obtain ⟨c, earlier, same, cause⟩ :=
      World.step_cause entries allowed (World.step_effect step) running struck
    rcases cause with before' | ⟨request, rfl, accepts⟩
    · obtain ⟨xs, request, o', ys, v, v', rfl, first, cancels, accepts, rest⟩ :=
        ih earlier before'
      rw [same] at accepts
      exact ⟨xs, request, o', ys ++ [(a, o)], v, v', by simp, first, cancels, accepts,
        rest.snoc allowed step⟩
    · exact ⟨tr, request, o, [], t, u, rfl, before, step, accepts, .nil u⟩

theorem Started.entries (start : Started w₀) : w₀.Entries ∧ w₀.Listed := by
  obtain ⟨project, task, repo, rfl⟩ := start.init
  refine ⟨⟨?_, ?_⟩, ?_⟩ <;> simp [World.Listed, World.init, SessionState.new]

/-- Over a store that never answers `Cancelled`, an execution ends with `OperationCancelled` only if a
cancel request for it was executed and accepted since it began. -/
theorem cancelled_since_begun
    (never : ∀ p (repo : σ), (StateRepository.saveProject p repo).1 ≠ .error .cancelled)
    (start : Started w₀) (run : (session σ streamId).Run honestStep w₀ tr w) {flag : FlagId}
    {w' : World σ} {o : Output} (finishes : w.step streamId (.finish flag) = some (w', o))
    (ends : o.EndsCancelled) : ∃ opening xs ob ys request oc zs u u' v v',
      tr = xs ++ (.dispatch opening, ob) :: (ys ++ (.dispatch request, oc) :: zs) ∧
      (session σ streamId).Run honestStep w₀ xs u ∧
      (session σ streamId).step u (.dispatch opening) = some (u', ob) ∧
      u.opens.lookup flag = none ∧
      (u'.opens.lookup flag).map OpenCall.request = some opening ∧
      (session σ streamId).Run honestStep u' ys v ∧
      (session σ streamId).step v (.dispatch request) = some (v', oc) ∧
      v.AcceptsCancel opening.requestId request oc ∧
      (session σ streamId).Run honestStep v' zs w ∧
      (w.opens.lookup flag).map OpenCall.request = some opening := by
  have entries := start.entries
  have idle : w₀.opens.lookup flag = none := by
    obtain ⟨project, task, repo, rfl⟩ := start.init
    rfl
  obtain ⟨call, result, running, here, finish⟩ := World.step_finish finishes
  rw [← (Prod.mk.inj finish).2] at ends
  have cancelled := World.result_of_endsCancelled never ends
  obtain ⟨xs, ob, later, u, u', begun, rfl, first, begins, absent, some, same, fresh, since⟩ :=
    run_origin entries idle run running
  have known := run_entries (first.snoc (a := .dispatch call.request) rfl begins) entries
  obtain ⟨ys, request, oc, zs, v, v', rfl, before, cancels, accepts, after⟩ :=
    run_cause known some fresh since running (.inr (by rw [here, cancelled]))
  exact ⟨call.request, xs, ob, ys, request, oc, zs, u, u', v, v', rfl, first, begins, absent,
    by rw [some, ← same]; rfl, before, cancels, accepts, after, by rw [running]; rfl⟩

/-- A cancel request under a fresh key is accepted for a call in progress. -/
theorem fresh_cancel_accepted (start : Started w₀)
    (run : (session σ streamId).Run honestStep w₀ tr w) {flag : FlagId} {call : OpenCall}
    {request : ClientRequest} {key : String} (running : w.opens.lookup flag = some call)
    (method : request.method = .cancelRequest call.request.requestId)
    (keyed : request.idempotencyKey = some key) (notCompleted : key ∉ w.state.completed)
    (notInFlight : key ∉ w.state.inFlight) (clean : w.statePoisoned = false) :
    ∃ w' o, w.step streamId (.dispatch request) = some (w', o) ∧
      w.AcceptsCancel call.request.requestId request o ∧ w'.flags flag = true := by
  have targeted := (run_entries run start.entries).2 clean flag call running
  have admitted := (World.admit_none_iff w.state key
    (.cancelRequest call.request.requestId) request.requestId).mpr ⟨notCompleted, notInFlight⟩
  refine ⟨_, _, rfl, ⟨method, ⟨key, keyed, notCompleted, notInFlight⟩, ?_⟩, ?_⟩
  · simp only [method, World.cancel, keyed, clean, admitted, World.cancelTarget,
      targeted, Bool.false_eq_true, if_false]
  · simp only [method, World.cancel, keyed, clean, admitted, World.cancelTarget,
      targeted, Bool.false_eq_true, if_false, Function.update_self]

end Runs

/-- An execution ends with `OperationCancelled` only if a cancel request for it was executed and
accepted since it began; no other cancel request affects it; and one under a fresh key for a
running target is accepted. -/
theorem no_spurious_cancellation {streamId : String} {w₀ w : World SqliteStateRepository}
    {tr : List (Action × Output)} (start : Started w₀)
    (run : (session SqliteStateRepository streamId).Run honestStep w₀ tr w) :
    (∀ flag w' o, (session SqliteStateRepository streamId).step w (.finish flag) = some (w', o) →
      o.EndsCancelled → ∃ opening xs ob ys request oc zs u u' v v',
        tr = xs ++ (.dispatch opening, ob) :: (ys ++ (.dispatch request, oc) :: zs) ∧
        (session SqliteStateRepository streamId).Run honestStep w₀ xs u ∧
        (session SqliteStateRepository streamId).step u (.dispatch opening) = some (u', ob) ∧
        u.opens.lookup flag = none ∧
        (u'.opens.lookup flag).map OpenCall.request = some opening ∧
        (session SqliteStateRepository streamId).Run honestStep u' ys v ∧
        (session SqliteStateRepository streamId).step v (.dispatch request) = some (v', oc) ∧
        v.AcceptsCancel opening.requestId request oc ∧
        (session SqliteStateRepository streamId).Run honestStep v' zs w ∧
        (w.opens.lookup flag).map OpenCall.request = some opening) ∧
    (∀ request target w' o, request.method = .cancelRequest target →
      (session SqliteStateRepository streamId).step w (.dispatch request) = some (w', o) →
      w'.opens = w.opens ∧ ∀ flag call, w.opens.lookup flag = some call →
        ¬ w.AcceptsCancel call.request.requestId request o → w'.flags flag = w.flags flag) ∧
    ∀ flag call request key, w.opens.lookup flag = some call →
      request.method = .cancelRequest call.request.requestId →
      request.idempotencyKey = some key → key ∉ w.state.completed → key ∉ w.state.inFlight →
      w.statePoisoned = false → ∃ w' o,
        (session SqliteStateRepository streamId).step w (.dispatch request) = some (w', o) ∧
        w.AcceptsCancel call.request.requestId request o ∧ w'.flags flag = true := by
  refine ⟨?_, ?_, ?_⟩
  · intro flag w' o finishes ends
    exact cancelled_since_begun World.saveProject_ne_cancelled start run finishes ends
  · intro request target w' o method cancels
    have entries := (run_entries run start.entries).1
    exact World.cancel_spares entries method (World.step_effect cancels)
  · intro flag call request key running method keyed notCompleted notInFlight clean
    exact fresh_cancel_accepted start run running method keyed notCompleted notInFlight clean

/-- A call cancelled after its inspection. -/
theorem no_spurious_cancellation_second_check :
    ∃ tr w w' o xs request oc ys, (session SqliteStateRepository "s").Run honestStep
      World.new tr w ∧ (session SqliteStateRepository "s").step w (.finish 0) = some (w', o) ∧
      tr = xs ++ (.dispatch request, oc) :: ys ∧ request.method = .cancelRequest "a" ∧
      oc.response = some (.success request.requestId (.cancellation "a" .accepted)) := by
  have run := Machine.run_of_exec_isSome (session SqliteStateRepository "s") honestStep
    World.new [
    .dispatch ⟨PROTOCOL_VERSION,"a",.openProject "/p",some "k"⟩,
    .firstCheck 0,
    .inspectReturns 0 (.ok ⟨"/p","name"⟩),
    .dispatch ⟨PROTOCOL_VERSION,"b",.cancelRequest "a",some "l"⟩,
    .secondCheck 0 "id"] (by decide +kernel)
  obtain ⟨opening, xs, ob, ys, request, oc, zs, _, _, v, _, cut, _, _, _, _, _, _, accepts, _,
    running⟩ := (no_spurious_cancellation .new run).1 0 _ _ rfl
      (.inl ⟨.failure "a" .operationCancelled "Project opening was cancelled",
        ⟨.operationCancelled,"Project opening was cancelled"⟩,rfl,rfl,rfl⟩)
  obtain rfl : ⟨PROTOCOL_VERSION,"a",.openProject "/p",some "k"⟩ = opening := Option.some.inj running
  exact ⟨_, _, _, _,
    xs ++ (.dispatch ⟨PROTOCOL_VERSION,"a",.openProject "/p",some "k"⟩, ob) :: ys, request, oc, zs,
    run, rfl, cut.trans (by simp), accepts.method, accepts.accepted⟩

end Kesharon.Daemon

import Kesharon.Daemon.ActiveTask
import Kesharon.Daemon.Books
import Kesharon.Daemon.Replies
import Kesharon.Daemon.Visible

namespace Kesharon.Daemon

open Framework Framework.Sql Domain Protocol Application

namespace Database

variable {db : Database} {p : Project}

theorem id_of_parseProjectRow {row : ProjectRow} {id : String} (named : row.id = .text id)
    (h : parseProjectRow row = .ok p) : p.id.asStr = id := by
  unfold parseProjectRow at h
  rw [named, Value.getText_text] at h
  obtain ⟨idStr, text, h⟩ := bind_eq_ok.mp h
  obtain rfl := Except.ok.inj (mapError_eq_ok.mp text)
  obtain ⟨_, _, h⟩ := bind_eq_ok.mp h
  obtain ⟨_, _, h⟩ := bind_eq_ok.mp h
  obtain ⟨_, _, h⟩ := bind_eq_ok.mp h
  obtain ⟨projectId, made, h⟩ := bind_eq_ok.mp h
  rw [Project.id_of_new (mapError_eq_ok.mp h), ProjectId.asStr_of_new (mapError_eq_ok.mp made)]

/-- The last active project is a project that the store names. -/
theorem mem_projectIds_of_last (h : db.lastActiveProject = .ok (some p)) :
    .text p.id.asStr ∈ db.projectIds := by
  unfold lastActiveProject at h
  cases pointer : db.lastActiveProjectId with
  | error e => simp [pointer] at h
  | ok id =>
    rw [pointer] at h
    change db.project id = _ at h
    unfold project at h
    cases found : db.findProject id with
    | none => simp [found] at h
    | some row =>
      have key : row.id = .text id := by simpa using List.find?_some found
      cases parsed : parseProjectRow row with
      | error e => simp [found, parsed, Except.map] at h
      | ok q =>
        obtain rfl : q = p := by simpa [found, parsed, Except.map] using h
        rw [id_of_parseProjectRow key parsed]
        exact mem_projectIds_of_pointer pointer

end Database

namespace SqliteStateRepository

variable {repo : SqliteStateRepository} {p : Project}

/-- A save neither of whose statements fails goes through. -/
theorem saved_of_savesNext (h : repo.savesNext = true) :
    (StateRepository.saveProject p repo).1 = .ok () := by
  obtain ⟨⟨database, failure, statements⟩, poisoned⟩ := repo
  unfold savesNext at h
  obtain ⟨rfl, first, second⟩ : poisoned = false ∧ failure statements = none ∧
      failure (statements + 1) = none := by simpa [and_assoc] using h
  simp [StateRepository.saveProject, withLock, Connection.saveProject, Connection.execute,
    Database.upsertProject, Database.upsertMetadata, first, second]

/-- A save that fails does not show: a new row is not pointed to. -/
theorem saveProject_error {e : ApplicationError}
    (h : (StateRepository.saveProject p repo).1 = .error e)
    (fresh : .text p.id.asStr ∉ repo.connection.database.projectIds) :
    (StateRepository.saveProject p repo).2.connection.database.lastActiveProject =
      repo.connection.database.lastActiveProject := by
  rcases saveProject_cases p repo with ⟨_, same⟩ | outcome
  · rw [same]
  · generalize (StateRepository.saveProject p repo).2.connection = c' at outcome ⊢
    rw [h] at outcome
    cases outcome with
    | failed _ same => rw [same.database]
    | unpointed _ database failure => rw [database, Database.lastActiveProject_putProject fresh]

theorem saveProject_ok (h : (StateRepository.saveProject p repo).1 = .ok ()) :
    (StateRepository.saveProject p repo).2.connection.database.lastActiveProject =
      .ok (some p) := by
  rcases saveProject_cases p repo with ⟨_, same⟩ | outcome
  · rw [same] at h
    cases h
  · generalize (StateRepository.saveProject p repo).2.connection = c' at outcome ⊢
    rw [h] at outcome
    cases outcome with
    | saved database failure => rw [database, Database.lastActiveProject_saved]

end SqliteStateRepository

namespace World

section Failure

variable {σ : Type}

theorem sequence_of_emitLocked_error {streamId : String} {w : World σ}
    {payload : DaemonEventPayload} {e : SessionError}
    (h : w.emitLocked streamId payload = .error e) : w.state.sequence = u64Max := by
  by_contra other
  obtain ⟨sequence, next⟩ : ∃ sequence, checkedSucc w.state.sequence = some sequence :=
    ⟨_, if_neg other⟩
  have below : w.state.sequence < u64Max := by
    have bound := w.state.sequence.toNat_lt
    have apart : w.state.sequence.toNat ≠ u64Max.toNat := fun he => other (UInt64.toNat_inj.mp he)
    rw [UInt64.lt_iff_toNat_lt]
    change w.state.sequence.toNat < 2^64 - 1
    change w.state.sequence.toNat ≠ 2^64 - 1 at apart
    omega
  obtain ⟨event, emitted, _⟩ := emitLocked_of_lt streamId w payload below
  rw [emitted] at h
  cases h

/-- A block that answers with an error leaves the project. -/
theorem settle_failed [StateRepository σ] {streamId : String} {w : World σ} {requestId : String}
    {result : Except ApplicationError Project}
    (failed : (w.settle streamId requestId result).1.response.error ≠ none) :
    (w.settle streamId requestId result).1.world.state.project = w.state.project := by
  have seen := w.settle_seen streamId requestId result
  have said := w.settle_said streamId requestId result
  generalize (w.settle streamId requestId result).1 = settled at failed seen said ⊢
  cases seen with
  | lost project active counter => exact project
  | said sequence payload terminal named project active next counter =>
    rw [project]
    cases said with
    | said _ verdict _ =>
      cases verdict with
      | opened p returned => exact absurd rfl failed
      | cancelled => rfl
      | failed e => rfl

/-- A project that has been saved is announced, unless the counter stands at its limit. -/
theorem settle_saved [StateRepository σ] {streamId : String} {w : World σ} {requestId : String}
    {p : Project} {repo : σ} (store : w.stateRepository = some repo)
    (lock : w.repositoryPoisoned = false)
    (saved : (StateRepository.saveProject p repo).1 = .ok ())
    (failed : (w.settle streamId requestId (.ok p)).1.response.error ≠ none) :
    w.state.sequence = u64Max := by
  obtain ⟨repo', save⟩ : ∃ repo', StateRepository.saveProject p repo = (.ok (), repo') :=
    ⟨_, Prod.ext saved rfl⟩
  simp only [settle, store, lock, Bool.false_eq_true, if_false, save, completeSuccess,
    emitAndRespond] at failed
  cases emitted : (w.setRepository (some repo')).emitLocked streamId
      (.projectOpened requestId (snapshotOf p)) with
  | error e =>
    have atLimit := sequence_of_emitLocked_error emitted
    exact atLimit
  | ok q =>
    rw [emitted] at failed
    exact absurd rfl failed

end Failure

variable (w : World SqliteStateRepository)

/-- What `load_last_active_project` answers to whoever reads the tables next. -/
def lastStored : Option (Except ApplicationError (Option Project)) :=
  w.stateRepository.map fun store => (StateRepository.loadLastActiveProject store.reopened).1

/-- Every value that the store names a project by. -/
def knownIds : List Value :=
  match w.stateRepository with
  | some store => store.connection.database.projectIds
  | none => []

/-- Project, store and counter are as before, but for the events that have been counted. -/
structure Unaffected (w w' : World SqliteStateRepository) : Prop where
  project : w'.state.project = w.state.project
  stored : w'.lastStored = w.lastStored
  counter : w.state.sequence ≤ w'.state.sequence

/-- The finishing call has a project, its save goes through, and no event can announce it: the
counter stands at its limit. -/
def Unannounced (flag : FlagId) : Prop :=
  ∃ p store, Pending w flag p ∧ w.stateRepository = some store ∧ w.repositoryPoisoned = false ∧
    store.savesNext = true ∧ w.state.sequence = u64Max

theorem lastStored_eq : w.lastStored =
    w.stateRepository.map fun store => store.connection.database.lastActiveProject := by
  unfold lastStored
  cases w.stateRepository with
  | none => rfl
  | some store =>
    exact congrArg some (Connection.loadLastActiveProject_sound fun _ _ _ => rfl)

end World

section Runs

variable {known : List Value} {tr : List (Action × Output)} {streamId : String}
variable {w w' w₀ : World SqliteStateRepository} {a : Action} {o : Output}

/-- A session is created, or stands at any other count of events. -/
inductive StartedAt : World SqliteStateRepository → Prop where
  | mk {w : World SqliteStateRepository} (h : Started w) (sequence : UInt64) :
      StartedAt { w with state := { w.state with sequence := sequence } }

theorem StartedAt.init (h : StartedAt w) : ∃ project task store sequence,
    w = { World.init project task store with
      state := { (World.init project task store).state with sequence := sequence } } := by
  cases h with
  | mk started sequence =>
    obtain ⟨project, task, store, rfl⟩ := started.init
    exact ⟨project, task, store, sequence, rfl⟩

theorem run_fresh (start : StartedAt w₀)
    (run : (session SqliteStateRepository streamId).Run Machine.anyStep w₀ tr w)
    (ids : NeverRepeated w₀.knownIds tr) : FreshIds w₀.knownIds tr w := by
  induction run with
  | nil =>
    have nobody (flag : FlagId) (p : Project) : ¬ Pending w₀ flag p := by
      obtain ⟨project, task, store, sequence, rfl⟩ := start.init
      rintro ⟨call, found, _⟩
      simp [World.init] at found
    refine ⟨?_, fun flag p pending => absurd pending (nobody flag p),
      fun flag p pending => absurd pending (nobody flag p),
      fun flag _ p _ pending => absurd pending (nobody flag p)⟩
    intro store found v hv
    have known : w₀.knownIds = store.connection.database.projectIds := by
      unfold World.knownIds
      rw [found]
    exact .inl (known ▸ hv)
  | snoc before _ hs ih => exact (ih ids.before).step ids hs

theorem run_entered (start : StartedAt w₀)
    (run : (session SqliteStateRepository streamId).Run Machine.anyStep w₀ tr w) :
    w.books.Entered := by
  apply run.invariant (I := fun w => w.books.Entered)
  · obtain ⟨project, task, store, sequence, rfl⟩ := start.init
    constructor <;> simp [World.books, World.init]
  · intro t a u o h _ hs
    exact Books.step_entered h (World.step_books hs)

/-- The counter never wraps. -/
theorem step_counter (hs : (session SqliteStateRepository streamId).step w a = some (w', o)) :
    w.state.sequence ≤ w'.state.sequence := by
  have grows {sequence : UInt64} (next : checkedSucc w.state.sequence = some sequence)
      (counter : w'.state.sequence = sequence) : w.state.sequence ≤ w'.state.sequence := by
    rw [UInt64.le_iff_toNat_le, counter, (checkedSucc_eq_some.mp next).2]
    exact Nat.le_succ _
  have seen := World.step_visible hs
  generalize o.events = events at seen
  cases seen with
  | quiet project active counter => exact counter ▸ UInt64.le_refl _
  | started sequence requestId flag project active next counter => exact grows next counter
  | ended sequence payload terminal project active next counter => exact grows next counter

/-- A step other than a finish leaves project and store. -/
theorem step_unaffected (hs : (session SqliteStateRepository streamId).step w a = some (w', o))
    (kept : w'.stateRepository = w.stateRepository) (project : w'.state.project = w.state.project) :
    w.Unaffected w' :=
  ⟨project, by rw [World.lastStored_eq, World.lastStored_eq, kept], step_counter hs⟩

/-- An error response of a finish that does not find the lock poisoned. -/
theorem finish_failed {flag : FlagId} {response : ServerResponse} (clean : w.statePoisoned = false)
    (hs : (session SqliteStateRepository streamId).step w (.finish flag) = some (w', o))
    (answer : o.response = some response) (failed : response.error ≠ none) :
    w'.state.project = w.state.project ∧ ∀ p store, Pending w flag p →
      w.stateRepository = some store → w.repositoryPoisoned = false →
        (StateRepository.saveProject p store).1 = .ok () → w.state.sequence = u64Max := by
  have lock : ¬ w.statePoisoned = true := by simp [clean]
  obtain ⟨call, result, found, returned, finish⟩ := World.step_finish hs
  unfold World.finishOpen at finish
  rw [if_neg lock] at finish
  obtain ⟨rfl, rfl⟩ := Prod.mk.inj finish
  obtain rfl := Option.some.inj answer
  refine ⟨World.settle_failed (w := w.remove flag call) failed, ?_⟩
  intro p store pending held free saved
  obtain ⟨call', found', returned'⟩ := pending
  rw [found] at found'
  obtain rfl := Option.some.inj found'
  rw [returned] at returned'
  obtain rfl := Execution.returned.inj returned'
  exact World.settle_saved (w := w.remove flag call) held free saved failed

/-- A call that is answered at its begin leaves no entries. -/
theorem beginOpen_answered {request : ClientRequest} {path : String} {response : ServerResponse}
    (h : (w.beginOpen streamId request path).2.response = some response) :
    (w.beginOpen streamId request path).1.state.active = w.state.active ∧
      (w.beginOpen streamId request path).1.state.inFlight = w.state.inFlight := by
  unfold World.beginOpen at h ⊢
  cases keyed : request.idempotencyKey with
  | none => exact ⟨rfl, rfl⟩
  | some key =>
    simp only [keyed] at h ⊢
    by_cases locked : w.statePoisoned = true
    · rw [if_pos locked]
      exact ⟨rfl, rfl⟩
    · rw [if_neg locked] at h ⊢
      cases admitted : w.state.admit key (.openProject path) request.requestId with
      | some refusal => exact ⟨rfl, rfl⟩
      | none =>
        obtain ⟨_, notInFlight⟩ := (World.admit_none_iff _ _ _ _).mp admitted
        simp only [admitted] at h ⊢
        by_cases running : request.requestId ∈ w.state.active
        · rw [if_pos running]
          exact ⟨rfl, rfl⟩
        · rw [if_neg running] at h ⊢
          cases emitted : (w.register request.requestId path key).emitLocked streamId
              (.operationStarted request.requestId .openProject) with
          | error e => exact ⟨Assoc.erase_insert running _, Assoc.erase_insert notInFlight _⟩
          | ok p =>
            rw [emitted] at h
            cases h

theorem move_unaffected {flag : FlagId} {call : OpenCall} {execution : Execution}
    (running : w.opens.lookup flag = some call) (moves : Moves w flag call a execution)
    (hs : (session SqliteStateRepository streamId).step w a = some (w', o)) : w.Unaffected w' := by
  have same : w' = w.advance flag call execution := by
    change w.step streamId a = some (w', o) at hs
    cases moves <;> simp only [World.step, running, ‹call.execution = _›, Option.some.injEq,
      Prod.mk.injEq] at hs <;> exact hs.1.symm
  have kept : w'.stateRepository = w.stateRepository := by rw [same]; rfl
  have project : w'.state.project = w.state.project := by rw [same]; rfl
  exact step_unaffected hs kept project

theorem finish_poisoned {flag : FlagId} (stuck : w.statePoisoned = true)
    (hs : (session SqliteStateRepository streamId).step w (.finish flag) = some (w', o)) :
    w'.state = w.state := by
  obtain ⟨call, result, found, returned, finish⟩ := World.step_finish hs
  unfold World.finishOpen at finish
  rw [if_pos stuck] at finish
  rw [← (Prod.mk.inj finish).1]

/-- A finish hands its project to an attached store. -/
theorem finish_stores {flag : FlagId} {p : Project} {store : SqliteStateRepository}
    (clean : w.statePoisoned = false) (pending : Pending w flag p)
    (held : w.stateRepository = some store) (free : w.repositoryPoisoned = false)
    (hs : (session SqliteStateRepository streamId).step w (.finish flag) = some (w', o)) :
    w'.stateRepository = some (StateRepository.saveProject p store).2 := by
  obtain ⟨call, found, returned⟩ := pending
  have lock : ¬ w.statePoisoned = true := by simp [clean]
  have held' : (w.remove flag call).stateRepository = some store := held
  have free' : (w.remove flag call).repositoryPoisoned = false := free
  change w.step streamId (.finish flag) = some (w', o) at hs
  simp only [World.step, found, returned, Option.some.injEq] at hs
  unfold World.finishOpen at hs
  rw [if_neg lock] at hs
  rw [← (Prod.mk.inj hs).1]
  simp only [held', free', Bool.false_eq_true, if_false]
  cases StateRepository.saveProject p store with
  | mk answer repo' =>
    cases answer with
    | ok u =>
      have kept := completeSuccess_storage streamId ((w.remove flag call).setRepository (some repo'))
        call.request.requestId p
      exact kept.1
    | error e =>
      have kept := emitAndRespond_storage streamId
        ((w.remove flag call).setRepository (some repo')) call.request.requestId
        (.operationFailed call.request.requestId (classifyApplicationError e).1
          (classifyApplicationError e).2)
        (.failure call.request.requestId (classifyApplicationError e).1
          (classifyApplicationError e).2)
      exact kept.stateRepository

/-- Where an error is answered under the lock, what is stored tells whether a project was saved
without being announced. -/
theorem finish_stored {flag : FlagId} {response : ServerResponse} (fresh : FreshIds known tr w)
    (clean : w.statePoisoned = false)
    (hs : (session SqliteStateRepository streamId).step w (.finish flag) = some (w', o))
    (answer : o.response = some response) (failed : response.error ≠ none) :
    w'.lastStored = w.lastStored ↔ ¬ w.Unannounced flag := by
  rw [World.lastStored_eq, World.lastStored_eq]
  by_cases saves : ∃ p store, Pending w flag p ∧ w.stateRepository = some store ∧
      w.repositoryPoisoned = false
  · obtain ⟨p, store, pending, held, free⟩ := saves
    rw [finish_stores clean pending held free hs, held, Option.map_some, Option.map_some]
    have new := fresh.unnamed flag p pending store held
    cases outcome : (StateRepository.saveProject p store).1 with
    | ok u =>
      have atLimit := (finish_failed clean hs answer failed).2 p store pending held free outcome
      have next := SqliteStateRepository.savesNext_of_saved outcome
      rw [SqliteStateRepository.saveProject_ok outcome]
      constructor
      · intro same
        exact absurd (Database.mem_projectIds_of_last (Option.some.inj same).symm) new
      · intro announced
        exact absurd ⟨p, store, pending, held, free, next, atLimit⟩ announced
    | error e =>
      rw [SqliteStateRepository.saveProject_error outcome new]
      refine iff_of_true rfl ?_
      rintro ⟨q, store', ⟨call', found', returned'⟩, held', _, next, _⟩
      obtain ⟨call, found, returned⟩ := pending
      rw [found] at found'
      obtain rfl := Option.some.inj found'
      rw [held] at held'
      obtain rfl := Option.some.inj held'
      rw [SqliteStateRepository.saved_of_savesNext next] at outcome
      cases outcome
  · refine iff_of_true ?_ ?_
    · have step : w.step streamId (.finish flag) = some (w', o) := hs
      have effect := (step_storage step).2
      cases effect with
      | kept _ store project => rw [store]
      | unstored _ store store' => rw [store, store']
      | saved _ p repo pending stateLock repositoryLock store store' project =>
        exact absurd ⟨p, repo, pending, store, repositoryLock⟩ saves
    · rintro ⟨p, store, pending, held, free, _⟩
      exact saves ⟨p, store, pending, held, free⟩

/-- What a call of `open_project` that answers with an error leaves behind. Its steps before the
finish affect nothing, and an answer at the begin leaves no entries. An error at the finish has
affected nothing and has removed the call's entries, exactly unless the session's lock was
poisoned or a project was saved that could not be announced. -/
theorem failed_open_changes_nothing (start : StartedAt w₀)
    (run : (session SqliteStateRepository streamId).Run Machine.anyStep w₀ tr w)
    (ids : NeverRepeated w₀.knownIds tr) :
    (∀ request path w' o, request.method = .openProject path →
      (session SqliteStateRepository streamId).step w (.dispatch request) = some (w', o) →
        w.Unaffected w' ∧ ∀ response, o.response = some response →
          w'.state.active = w.state.active ∧ w'.state.inFlight = w.state.inFlight) ∧
    (∀ flag call a execution w' o, w.opens.lookup flag = some call →
      Moves w flag call a execution →
        (session SqliteStateRepository streamId).step w a = some (w', o) → w.Unaffected w') ∧
    ∀ flag call w' o response, w.opens.lookup flag = some call →
      (session SqliteStateRepository streamId).step w (.finish flag) = some (w', o) →
      o.response = some response → response.error ≠ none →
        (w.Unaffected w' ∧ call.request.requestId ∉ w'.state.active ∧
            call.key ∉ w'.state.inFlight ↔
          w.statePoisoned = false ∧ ¬ w.Unannounced flag) := by
  have fresh := run_fresh start run ids
  have entered := run_entered start run
  refine ⟨?_, fun flag call a execution w' o => move_unaffected, ?_⟩
  · intro request path w' o method hs
    have begun : w.beginOpen streamId request path = (w', o) := by
      have step : w.dispatch streamId request = (w', o) := Option.some.inj hs
      unfold World.dispatch at step
      rwa [method] at step
    have same : SameStorage w (w.beginOpen streamId request path).1 :=
      beginOpen_storage w request path
    rw [begun] at same
    refine ⟨step_unaffected hs same.stateRepository same.project, ?_⟩
    intro response answer
    have kept : (w.beginOpen streamId request path).2.response = some response →
        (w.beginOpen streamId request path).1.state.active = w.state.active ∧
          (w.beginOpen streamId request path).1.state.inFlight = w.state.inFlight :=
      beginOpen_answered
    rw [begun] at kept
    exact kept answer
  · intro flag call w' o response running hs answer failed
    cases clean : w.statePoisoned with
    | true =>
      have entry := (entered.active flag call running).2
      refine iff_of_false ?_ (by simp)
      rintro ⟨_, removed, _⟩
      rw [finish_poisoned clean hs] at removed
      exact removed (AList.lookup_isSome.mp (by rw [show w.state.active.lookup _ = _ from entry]; rfl))
    | false =>
      obtain ⟨call', running', _, active, inFlight⟩ := finish_erases clean hs
      rw [running] at running'
      obtain rfl := Option.some.inj running'
      have project := (finish_failed clean hs answer failed).1
      have stored := finish_stored fresh clean hs answer failed
      rw [active, inFlight, AList.mem_erase, AList.mem_erase]
      constructor
      · rintro ⟨unaffected, _, _⟩
        exact ⟨rfl, stored.mp unaffected.stored⟩
      · rintro ⟨_, announced⟩
        exact ⟨⟨project, stored.mpr announced, step_counter hs⟩, fun h => h.1 rfl,
          fun h => h.1 rfl⟩

end Runs

/-- A session over an empty store that can count one more event. -/
def nearLimit : World SqliteStateRepository :=
  { World.init none none (some (SessionRecovery.execute SqliteStateRepository.inMemory).2) with
    state := { SessionState.new with sequence := u64Max - 1 } }

theorem nearLimit_started : StartedAt nearLimit := by
  have created : World.withStorage (some (SqliteStateRepository.inMemory, false)) =
      .ok (World.init none none (some (SessionRecovery.execute SqliteStateRepository.inMemory).2)) :=
    withStorage_iff.mpr ⟨⟨none,none⟩, rfl, rfl⟩
  exact .mk (.withStorage created) (u64Max - 1)

/-- An open that fails at the limit of the counter affects nothing. -/
theorem failed_open_changes_nothing_exhausted :
    ∃ tr w w' o, (session SqliteStateRepository "s").Run Machine.anyStep nearLimit tr w ∧
      (session SqliteStateRepository "s").step w (.finish 0) = some (w', o) ∧
      o.response = some (internalError "a") ∧ w.state.sequence = u64Max ∧
      w.Unaffected w' ∧ "a" ∉ w'.state.active ∧ "k" ∉ w'.state.inFlight := by
  have run := Machine.run_of_exec_isSome (session SqliteStateRepository "s") Machine.anyStep
    nearLimit [
    .dispatch ⟨PROTOCOL_VERSION,"a",.openProject "/p",some "k"⟩,
    .firstCheck 0,
    .inspectReturns 0 (.error (.repository "notGitRepository"))] (by decide +kernel)
  have whole := failed_open_changes_nothing nearLimit_started run
    ⟨by decide +kernel, by decide +kernel⟩
  refine ⟨_, _, _, _, run, rfl, rfl, by decide +kernel, ?_⟩
  refine (whole.2.2 0 _ _ _ _ rfl rfl rfl (by decide +kernel)).mpr ⟨rfl, ?_⟩
  rintro ⟨p, store, ⟨call, running, returned⟩, _⟩
  obtain rfl := Option.some.inj running
  cases returned

/-- At the limit of the counter an open answers with an error and leaves its project in the
store, as the last active one, while the session shows none. -/
theorem failed_open_saved :
    ∃ tr w w' o p, (session SqliteStateRepository "s").Run Machine.anyStep nearLimit tr w ∧
      NeverRepeated nearLimit.knownIds tr ∧
      (session SqliteStateRepository "s").step w (.finish 0) = some (w', o) ∧
      o.response = some (internalError "a") ∧ w'.state.project = none ∧
      w.lastStored = some (.ok none) ∧ w'.lastStored = some (.ok (some p)) ∧
      p.id.asStr = "p" := by
  have run := Machine.run_of_exec_isSome (session SqliteStateRepository "s") Machine.anyStep
    nearLimit [
    .dispatch ⟨PROTOCOL_VERSION,"a",.openProject "/p",some "k"⟩,
    .firstCheck 0,
    .inspectReturns 0 (.ok ⟨"/p","name"⟩),
    .secondCheck 0 "p"] (by decide +kernel)
  exact ⟨_, _, _, _, ⟨⟨⟨"p",by decide⟩⟩,⟨"name",by decide⟩,⟨"/p",by decide⟩,false⟩, run,
    ⟨by decide +kernel, by decide +kernel⟩, rfl, rfl, rfl, rfl, rfl, rfl⟩

end Kesharon.Daemon

import Kesharon.Daemon.FreshIds

namespace Kesharon.Daemon

open Framework Framework.Sql Domain Protocol Application

/-- Memory and disk agree on the current project, and stay so through every save to come. -/
structure Durable (known : List Value) (tr : List (Action × Output))
    (repo : SqliteStateRepository) (w : World SqliteStateRepository) : Prop where
  store : w.stateRepository = some repo
  unlocked : repo.poisoned = false
  recovers : ∃ project task, repo.connection.database.recovered = .ok ⟨project,task⟩ ∧
    w.state.project = project.map snapshotOf
  named : ∀ v ∈ repo.connection.database.projectIds,
    v ∈ known ∨ ∃ id ∈ generatedIds tr, v = .text id
  generated : ∀ flag p, Pending w flag p →
    p.id.asStr ∈ generatedIds tr ∧ .text p.id.asStr ∉ repo.connection.database.projectIds
  distinct : ∀ flag flag' p p', Pending w flag p → Pending w flag' p' →
    p.id.asStr = p'.id.asStr → flag = flag'

namespace Durable

variable {known : List Value} {tr : List (Action × Output)} {repo : SqliteStateRepository}
variable {w w' : World SqliteStateRepository} {x : Action × Output}

/-- A store under fresh ids that recovers the current project. -/
theorem of_fresh (fresh : FreshIds known tr w) (store : w.stateRepository = some repo)
    (unlocked : repo.poisoned = false)
    (recovers : ∃ project task, repo.connection.database.recovered = .ok ⟨project,task⟩ ∧
      w.state.project = project.map snapshotOf) :
    Durable known tr repo w where
  store := store
  unlocked := unlocked
  recovers := recovers
  named := fresh.named repo store
  generated flag p pends := ⟨fresh.generated flag p pends,fresh.unnamed flag p pends repo store⟩
  distinct := fresh.distinct

theorem fresh (h : Durable known tr repo w) : FreshIds known tr w where
  named store found := by
    obtain rfl := Option.some.inj (h.store.symm.trans found)
    exact h.named
  generated flag p pends := (h.generated flag p pends).1
  unnamed flag p pends store found := by
    obtain rfl := Option.some.inj (h.store.symm.trans found)
    exact (h.generated flag p pends).2
  distinct := h.distinct

/-- A step that leaves store and project alone. -/
theorem same (h : Durable known tr repo w) (fresh : FreshIds known (tr ++ [x]) w')
    (store : w'.stateRepository = w.stateRepository)
    (project : w'.state.project = w.state.project) : Durable known (tr ++ [x]) repo w' := by
  refine of_fresh fresh (store.trans h.store) h.unlocked ?_
  rw [project]
  exact h.recovers

end Durable

section Steps

variable {known : List Value} {tr : List (Action × Output)} {repo : SqliteStateRepository}
variable {w w' : World SqliteStateRepository} {streamId : String}

theorem finished_storage (w : World SqliteStateRepository) (flag : FlagId) (call : OpenCall)
    (store : Option SqliteStateRepository) (project : Option ProjectSnapshot)
    (event : DaemonEvent) (completion : Completion) :
    (w.finished flag call store project event completion).stateRepository = store ∧
      (w.finished flag call store project event completion).state.project = project := by
  obtain ⟨sub, chans, he⟩ := ((w.remove flag call).setRepository store).emit_frame event
  unfold World.finished World.settled
  rw [he]
  exact ⟨rfl, rfl⟩

/-- A save of a project that fails leaves what is recovered; one that succeeds replaces it. -/
theorem settled_durable {x : Action × Output} {flag : FlagId} {call : OpenCall}
    {result : Except ApplicationError Project} {store : Option SqliteStateRepository}
    {project : Option ProjectSnapshot} {payload : DaemonEventPayload} {response : ServerResponse}
    {saved : Option Project} {event : DaemonEvent} {completion : Completion}
    (h : Durable known tr repo w)
    (fresh : FreshIds known (tr ++ [x]) (w.finished flag call store project event completion))
    (running : w.opens.lookup flag = some call) (here : call.execution = .returned result)
    (settles : Settlement w call.request.requestId result store project payload response saved) :
    ∃ repo', Durable known (tr ++ [x]) repo'
      (w.finished flag call store project event completion) := by
  obtain ⟨hstore, hproject⟩ := finished_storage w flag call store project event completion
  have keeps (kept : store = w.stateRepository) (same : project = w.state.project) :
      ∃ repo', Durable known (tr ++ [x]) repo'
        (w.finished flag call store project event completion) :=
    ⟨repo, h.same fresh (hstore.trans kept) (hproject.trans same)⟩
  cases settles with
  | opened p noStore =>
    rw [h.store] at noStore
    cases noStore
  | cancelled => exact keeps rfl rfl
  | failed e other => exact keeps rfl rfl
  | stored p old repo' found save =>
    obtain rfl : repo = old := Option.some.inj (h.store.symm.trans found)
    have unnamed := (h.generated flag p ⟨call, running, here⟩).2
    obtain ⟨free, outcome⟩ := SqliteStateRepository.saveProject_outcome h.unlocked save
    refine ⟨repo', .of_fresh fresh hstore free ⟨some p, none, ?_, hproject⟩⟩
    cases outcome with
    | saved database failure => rw [database, Database.recovered_saved unnamed]
  | unsaved p e old repo' found save =>
    obtain rfl : repo = old := Option.some.inj (h.store.symm.trans found)
    have unnamed := (h.generated flag p ⟨call, running, here⟩).2
    obtain ⟨free, outcome⟩ := SqliteStateRepository.saveProject_outcome h.unlocked save
    obtain ⟨before, task, recovers, current⟩ := h.recovers
    refine ⟨repo', .of_fresh fresh hstore free ⟨before, task, ?_, hproject.trans current⟩⟩
    rw [← recovers]
    cases outcome with
    | failed _ same => rw [same.database]
    | unpointed _ database failure => rw [database, Database.recovered_putProject unnamed]

/-- One step keeps memory and disk in agreement. -/
theorem outcome_durable {a : Action} {o : Output} (h : Durable known tr repo w)
    (healthy : Healthy w) (fresh : FreshIds known (tr ++ [(a, o)]) w')
    (outcome : Outcome streamId w a w' o) :
    ∃ repo', Durable known (tr ++ [(a, o)]) repo' w' := by
  cases outcome with
  | answered request response => exact ⟨repo, h.same fresh rfl rfl⟩
  | cancelled request target key completion => exact ⟨repo, h.same fresh rfl rfl⟩
  | received ch r c => exact ⟨repo, h.same fresh rfl rfl⟩
  | hungUp ch => exact ⟨repo, h.same fresh rfl rfl⟩
  | moved _ flag call execution running moves => exact ⟨repo, h.same fresh rfl rfl⟩
  | finished flag call result store project payload event response saved completion running here
      settles =>
    exact settled_durable h fresh running here settles
  | subscribed =>
    have kept : (w.subscribe streamId).1.stateRepository = w.stateRepository ∧
        (w.subscribe streamId).1.state.project = w.state.project := by
      unfold World.subscribe
      rw [if_neg (by simp [healthy.state_lock])]
      exact ⟨rfl, rfl⟩
    exact ⟨repo, h.same fresh kept.1 kept.2⟩
  | begun request path key event =>
    obtain ⟨sub, chans, he⟩ := (w.register request.requestId path key).emit_frame event
    have kept : (w.begun request path key event).stateRepository = w.stateRepository ∧
        (w.begun request path key event).state.project = w.state.project := by
      unfold World.begun
      rw [he]
      exact ⟨rfl, rfl⟩
    exact ⟨repo, h.same fresh kept.1 kept.2⟩

/-- What a recovery returns is what the session starts from. -/
theorem withStorage_iff :
    World.withStorage (some (repo, false)) = .ok w ↔
      ∃ recovered, (SessionRecovery.execute repo).1 = .ok recovered ∧
        w = World.init (recovered.project.map snapshotOf) recovered.activeTask
          (some (SessionRecovery.execute repo).2) := by
  simp only [World.withStorage, Bool.false_eq_true, if_false]
  cases SessionRecovery.execute repo with
  | mk result repo' =>
    cases result with
    | error e => simp
    | ok recovered => simp [eq_comm]

/-- A recovery takes the lock of the connection. -/
theorem unlocked_of_execute {recovered : RecoveredSession}
    (h : (SessionRecovery.execute repo).1 = .ok recovered) : repo.poisoned = false := by
  cases locked : repo.poisoned with
  | false => rfl
  | true =>
    simp [SessionRecovery.execute, StateRepository.loadLastActiveProject,
      SqliteStateRepository.withLock, locked] at h

/-- A session just recovered agrees with its store. -/
theorem withStorage_durable (created : World.withStorage (some (repo, false)) = .ok w)
    (reads : repo.connection.Sound (SessionRecovery.execute repo).2.connection) :
    Durable repo.connection.database.projectIds [] (SessionRecovery.execute repo).2 w := by
  obtain ⟨recovered, ok, rfl⟩ := withStorage_iff.mp created
  have unlocked := unlocked_of_execute ok
  have value := SqliteStateRepository.execute_sound unlocked reads
  obtain ⟨kept, same⟩ := SqliteStateRepository.execute_reads repo
  have nobody (flag : FlagId) (p : Project) :
      ¬ Pending (World.init (recovered.project.map snapshotOf) recovered.activeTask
        (some (SessionRecovery.execute repo).2)) flag p := by
    rintro ⟨call, hl, _⟩
    simp [World.init] at hl
  exact {
    store := rfl
    unlocked := kept.trans unlocked
    recovers := ⟨recovered.project, recovered.activeTask, by rw [same.database, ← value, ok], rfl⟩
    named := fun v among => .inl (by rw [same.database] at among; exact among)
    generated := fun flag p pends => absurd pends (nobody flag p)
    distinct := fun flag _ p _ pends => absurd pends (nobody flag p) }

theorem run_durable {w₀ : World SqliteStateRepository}
    (created : World.withStorage (some (repo, false)) = .ok w₀)
    (reads : repo.connection.Sound (SessionRecovery.execute repo).2.connection)
    (run : (session SqliteStateRepository streamId).Run healthyStep w₀ tr w)
    (ids : NeverRepeated repo.connection.database.projectIds tr) :
    ∃ store, Durable repo.connection.database.projectIds tr store w := by
  have both : Healthy w ∧ (NeverRepeated repo.connection.database.projectIds tr →
      ∃ store, Durable repo.connection.database.projectIds tr store w) := by
    apply run.history (P := fun tr w => Healthy w ∧
      (NeverRepeated repo.connection.database.projectIds tr →
        ∃ store, Durable repo.connection.database.projectIds tr store w))
    · exact ⟨(Started.withStorage created).healthy, fun _ => ⟨_, withStorage_durable created reads⟩⟩
    · intro tr w a w' o ⟨healthy, before⟩ ok step
      refine ⟨ok, fun ids => ?_⟩
      obtain ⟨store, durable⟩ := before ids.before
      exact outcome_durable durable healthy (durable.fresh.step ids step)
        (step_outcome healthy ok step)
  exact both.2 ids

/-- Memory and disk agree on the current project. In a run of a session over the SQLite
repository, with writes that fail anywhere and ids that are never repeated, whoever reads the
store, with reads that succeed, loads the session's project as the last active one; and a session
recovered from it publishes the same project. -/
theorem restart_loses_nothing {w₀ : World SqliteStateRepository}
    (created : World.withStorage (some (repo, false)) = .ok w₀)
    (reads : repo.connection.Sound (SessionRecovery.execute repo).2.connection)
    (run : (session SqliteStateRepository streamId).Run healthyStep w₀ tr w)
    (ids : NeverRepeated repo.connection.database.projectIds tr) :
    ∃ store, w.stateRepository = some store ∧
      ∀ reader : SqliteStateRepository, reader.poisoned = false →
        reader.connection.database = store.connection.database →
        (reader.connection.Sound reader.connection.loadLastActiveProject.2 →
          ∃ last, (StateRepository.loadLastActiveProject reader).1 = .ok last ∧
            w.state.project = last.map snapshotOf) ∧
        (reader.connection.Sound (SessionRecovery.execute reader).2.connection →
          ∃ w', World.withStorage (some (reader, false)) = .ok w' ∧
            ∀ streamId', (w'.snapshotLocked streamId').project =
              (w.snapshotLocked streamId).project) := by
  obtain ⟨store, durable⟩ := run_durable created reads run ids
  obtain ⟨project, task, recovers, current⟩ := durable.recovers
  refine ⟨store, durable.store, fun reader free same => ⟨fun sound => ?_, fun sound => ?_⟩⟩
  · refine ⟨project, ?_, current⟩
    have value := Connection.loadLastActiveProject_sound sound
    rw [same, Database.lastActiveProject_of_recovered recovers] at value
    obtain ⟨c, poisoned⟩ := reader
    obtain rfl : poisoned = false := free
    exact value
  · have value := SqliteStateRepository.execute_sound free sound
    rw [same, recovers] at value
    refine ⟨_, withStorage_iff.mpr ⟨_, value, rfl⟩, fun streamId' => ?_⟩
    exact current.symm

end Steps

/-- The same tables behind a connection none of whose statements fail. -/
def SqliteStateRepository.reopened (store : SqliteStateRepository) : SqliteStateRepository :=
  ⟨⟨store.connection.database,fun _ => none,0⟩,false⟩

/-- A fresh store whose fifth statement fails. -/
def flakyStore : SqliteStateRepository :=
  ⟨⟨Database.empty,fun i => if i = 4 then some "disk I/O error" else none,0⟩,false⟩

/-- The second project is written and not pointed to: the first one is recovered. -/
theorem restart_loses_nothing_unpointed :
    ∃ w₀ tr w store w', World.withStorage (some (flakyStore, false)) = .ok w₀ ∧
      (session SqliteStateRepository "s").Run healthyStep w₀ tr w ∧
      w.stateRepository = some store ∧ store.connection.database.projects.length = 2 ∧
      World.withStorage (some (store.reopened, false)) = .ok w' ∧
      (w'.snapshotLocked "t").project = some ⟨"p","name","/p",false⟩ := by
  have run := Machine.run_of_exec_isSome (session SqliteStateRepository "s") healthyStep
    (World.init none none (some (SessionRecovery.execute flakyStore).2)) [
    .dispatch ⟨PROTOCOL_VERSION,"a",.openProject "/p",some "k"⟩,
    .dispatch ⟨PROTOCOL_VERSION,"b",.openProject "/q",some "l"⟩,
    .firstCheck 0,
    .firstCheck 1,
    .inspectReturns 0 (.ok ⟨"/p","name"⟩),
    .inspectReturns 1 (.ok ⟨"/q","other"⟩),
    .secondCheck 0 "p",
    .secondCheck 1 "q",
    .finish 0,
    .finish 1] (by decide +kernel)
  have created : World.withStorage (some (flakyStore, false)) =
      .ok (World.init none none (some (SessionRecovery.execute flakyStore).2)) :=
    withStorage_iff.mpr ⟨⟨none,none⟩, rfl, rfl⟩
  have reads : flakyStore.connection.Sound (SessionRecovery.execute flakyStore).2.connection := by
    intro i _ last
    have early : i < 1 := last
    exact if_neg (by omega)
  obtain ⟨store, kept, durable⟩ := restart_loses_nothing created reads run
    ⟨by decide +kernel, by decide +kernel⟩
  have reader := durable store.reopened rfl rfl
  obtain ⟨w', restarted, same⟩ := reader.2 fun _ _ _ => rfl
  refine ⟨_, _, _, store, w', created, run, kept, ?_, restarted, ?_⟩
  · obtain rfl := Option.some.inj kept
    decide +kernel
  · rw [same "t"]
    decide +kernel

end Kesharon.Daemon

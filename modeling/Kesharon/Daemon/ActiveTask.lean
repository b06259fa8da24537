import Kesharon.Daemon.Restart

namespace Kesharon.Daemon

open Framework Framework.Sql Domain Protocol Application

namespace Database

/-- An active task is attached to the project. -/
def attached (projectId : String) (db : Database) : Bool :=
  db.tasks.any fun r => r.projectId = .text projectId ∧ r.isActive = .integer 1

theorem activeTask_unattached {projectId : String} {db : Database}
    (h : db.attached projectId = false) : db.activeTask projectId = .ok none := by
  have nobody : (db.tasks.reverse.find? fun r =>
      r.projectId = .text projectId ∧ r.isActive = .integer 1) = none := by
    apply List.find?_eq_none.mpr
    intro row among here
    have absent := List.any_eq_false.mp h row (List.mem_reverse.mp among)
    exact absent here
  unfold activeTask activeTaskId
  rw [nobody]
  rfl

/-- A store points to a project that it holds, to which no active task is attached. -/
structure PointsIdle (db : Database) (p : Project) : Prop where
  pointer : db.lastActiveProjectId = .ok p.id.asStr
  row : db.findProject p.id.asStr = some (projectParams p)
  idle : db.attached p.id.asStr = false

theorem PointsIdle.recovered {db : Database} {p : Project} (h : db.PointsIdle p) :
    db.recovered = .ok ⟨some p,none⟩ := by
  have last : db.lastActiveProject = .ok (some p) := by
    unfold lastActiveProject project
    rw [h.pointer]
    dsimp only
    rw [h.row]
    change (parseProjectRow (projectParams p)).map some = _
    rw [parseProjectRow_params]
    rfl
  unfold Database.recovered
  rw [last]
  dsimp only
  rw [activeTask_unattached h.idle]
  rfl

end Database

namespace Connection

variable {α : Type} {c : Connection}

theorem query_ok {select : Database → Except String α} {x : α}
    (h : (c.query select).1 = .ok x) : select c.database = .ok x := by
  unfold query at h
  cases hf : c.failure c.statements with
  | some message => simp [hf] at h
  | none =>
    rw [hf] at h
    exact h

/-- A task that is loaded was found. -/
theorem activeTask_of_load {projectId : String} {task : Task}
    (h : (c.loadActiveTask projectId).1 = .ok (some task)) :
    c.database.activeTask projectId = .ok (some task) := by
  unfold loadActiveTask at h
  have reads := query_reads (Database.activeTaskId projectId) c
  cases hq : c.query (Database.activeTaskId projectId) with
  | mk r d =>
    cases r with
    | error e => simp [hq] at h
    | ok id =>
      rw [hq] at h reads
      have found : c.database.activeTaskId projectId = .ok id := query_ok (by rw [hq])
      unfold Database.activeTask
      rw [found]
      unfold loadTask at h
      cases hq' : d.query fun db => .ok (db.findTask id) with
      | mk r' d' =>
        rcases r' with e | (_ | row)
        · simp [hq'] at h
        · simp [hq'] at h
        · have row' : d.database.findTask id = some row :=
            Except.ok.inj (query_ok (c := d) (by rw [hq']))
          rw [reads.database] at row'
          unfold Database.task
          dsimp only
          rw [row']
          simpa [hq'] using h

end Connection

namespace SqliteStateRepository

variable {repo repo' : SqliteStateRepository}

/-- Neither statement of a save that comes next fails. -/
def savesNext (repo : SqliteStateRepository) : Bool :=
  !repo.poisoned && (repo.connection.failure repo.connection.statements).isNone &&
    (repo.connection.failure (repo.connection.statements + 1)).isNone

theorem savesNext_of_saved {p : Project} (h : (StateRepository.saveProject p repo).1 = .ok ()) :
    repo.savesNext = true := by
  obtain ⟨⟨database, failure, statements⟩, poisoned⟩ := repo
  simp only [StateRepository.saveProject, withLock, Connection.saveProject, Connection.execute,
    Database.upsertProject, Database.upsertMetadata] at h
  unfold savesNext
  cases poisoned with
  | true => simp at h
  | false =>
    cases first : failure statements with
    | some message => simp [first] at h
    | none =>
      cases second : failure (statements + 1) with
      | some message => simp [first, second] at h
      | none => simp [first, second]

/-- What a recovered task belongs to. -/
theorem activeTask_of_execute {recovered : RecoveredSession} {task : Task}
    (h : (SessionRecovery.execute repo).1 = .ok recovered) (active : recovered.activeTask = some task) :
    ∃ p, recovered.project = some p ∧
      repo.connection.database.activeTask p.id.asStr = .ok (some task) := by
  have unlocked := unlocked_of_execute h
  obtain ⟨c, poisoned⟩ := repo
  obtain rfl : poisoned = false := unlocked
  have reads := c.loadLastActiveProject_reads
  unfold SessionRecovery.execute at h
  simp only [StateRepository.loadLastActiveProject, StateRepository.loadActiveTask, withLock,
    Bool.false_eq_true, if_false] at h
  cases hl : c.loadLastActiveProject with
  | mk r d =>
    rw [hl] at reads h
    rcases r with e | (_ | p)
    · simp at h
    · obtain rfl : _ = recovered := Except.ok.inj h
      cases active
    · cases ha : (d.loadActiveTask p.id.asStr).1 with
      | error e => simp [ha] at h
      | ok found =>
        simp only [ha, Bool.false_eq_true, if_false, Except.ok.injEq] at h
        subst h
        obtain rfl : found = some task := active
        refine ⟨p, rfl, ?_⟩
        rw [← reads.database]
        exact Connection.activeTask_of_load ha

end SqliteStateRepository

namespace World

variable (w : World SqliteStateRepository)

def projectId : Option String := w.state.project.map ProjectSnapshot.id

/-- The project other than the session's own that a finishing call is going to save. -/
def replaces : Action → Option Project
  | .finish flag =>
    match w.opens.lookup flag, w.stateRepository with
    | some call, some store =>
      match call.execution with
      | .returned (.ok p) =>
        if w.statePoisoned = false ∧ w.repositoryPoisoned = false ∧ store.savesNext = true ∧
          w.projectId ≠ some p.id.asStr then some p else none
      | _ => none
    | _, _ => none
  | _ => none

/-- Another project is opened only in a session without an active task, and saved only where no
active task is attached to it. -/
def Undisturbed (a : Action) (_ : World SqliteStateRepository) : Prop :=
  ∀ p ∈ w.replaces a, (w.state.sequence ≠ u64Max → w.state.activeTask = none) ∧
    ∀ store ∈ w.stateRepository, store.connection.database.attached p.id.asStr = false

instance (a : Action) (w' : World SqliteStateRepository) : Decidable (w.Undisturbed a w') :=
  inferInstanceAs (Decidable (∀ p ∈ w.replaces a,
    (w.state.sequence ≠ u64Max → w.state.activeTask = none) ∧
      ∀ store ∈ w.stateRepository, store.connection.database.attached p.id.asStr = false))

end World

section Runs

variable {streamId : String} {w w' w₀ : World SqliteStateRepository}
variable {a : Action} {o : Output} {tr : List (Action × Output)}

theorem mem_replaces {flag : FlagId} {p : Project} {store : SqliteStateRepository}
    (pending : Pending w flag p) (stateLock : w.statePoisoned = false)
    (repositoryLock : w.repositoryPoisoned = false) (found : w.stateRepository = some store)
    (saves : store.savesNext = true) (other : w.projectId ≠ some p.id.asStr) :
    p ∈ w.replaces (.finish flag) := by
  obtain ⟨call, running, here⟩ := pending
  simp [World.replaces, running, found, here, stateLock, repositoryLock, saves, other]

/-- The active task of a session is the one that its store has for its project. -/
def Belongs (w : World SqliteStateRepository) : Prop :=
  ∀ task, w.state.activeTask = some task → ∃ project store,
    w.state.project = some project ∧ w.stateRepository = some store ∧
      store.connection.database.activeTask project.id = .ok (some task)

/-- A save of a project leaves the tasks alone. -/
theorem tasks_of_save {p : Project} {c c' : Connection} {result : Except ApplicationError Unit}
    (h : ProjectSave p c result c') : c'.database.tasks = c.database.tasks := by
  cases h with
  | failed _ same => rw [same.database]
  | unpointed _ database => rw [database]; rfl
  | saved database => rw [database]; rfl

theorem activeTask_of_tasks {db db' : Database} (same : db'.tasks = db.tasks) (id : String) :
    db'.activeTask id = db.activeTask id := by
  unfold Database.activeTask Database.activeTaskId Database.task Database.findTask
  rw [same]

theorem attached_of_tasks {db db' : Database} (same : db'.tasks = db.tasks) (id : String) :
    db'.attached id = db.attached id := by
  unfold Database.attached
  rw [same]

theorem saveProject_save (p : Project) (repo : SqliteStateRepository) :
    (StateRepository.saveProject p repo).2.poisoned = repo.poisoned ∧
      ProjectSave p repo.connection (StateRepository.saveProject p repo).1
        (StateRepository.saveProject p repo).2.connection := by
  cases locked : repo.poisoned with
  | false =>
    have outcome := SqliteStateRepository.saveProject_outcome (p := p) locked rfl
    exact outcome
  | true =>
    simp only [StateRepository.saveProject, SqliteStateRepository.withLock, locked, if_true]
    exact ⟨trivial, .failed _ ⟨rfl, rfl⟩⟩

theorem step_belongs (h : Belongs w) (ok : w.Undisturbed a w')
    (step : w.step streamId a = some (w', o)) : Belongs w' := by
  obtain ⟨sameTask, effect⟩ := step_storage step
  intro task active
  rw [sameTask] at active
  obtain ⟨project, store, current, found, loads⟩ := h task active
  cases effect with
  | kept _ store' project' => exact ⟨project, store, project'.trans current, store'.trans found, loads⟩
  | unstored _ none_ =>
    rw [found] at none_
    cases none_
  | saved flag p repo pending stateLock repositoryLock here store' project' =>
    obtain rfl : store = repo := Option.some.inj (found.symm.trans here)
    have outcome := (saveProject_save p store).2
    have same := activeTask_of_tasks (tasks_of_save outcome)
    rcases project' with kept | ⟨saves, counted, opened⟩
    · exact ⟨project, _, kept.trans current, store', by rw [same]; exact loads⟩
    · have own : w.projectId = some p.id.asStr := by
        by_contra other
        have next := SqliteStateRepository.savesNext_of_saved saves
        have idle := (ok p (mem_replaces pending stateLock repositoryLock found next other)).1 counted
        rw [active] at idle
        cases idle
      have named : project.id = p.id.asStr := by
        unfold World.projectId at own
        rw [current] at own
        exact Option.some.inj own
      refine ⟨_, _, opened, store', ?_⟩
      rw [same]
      change store.connection.database.activeTask p.id.asStr = _
      rw [← named]
      exact loads

/-- Another project has been opened: no task is active, in memory and in the store. -/
structure Renewed (w : World SqliteStateRepository) (store : SqliteStateRepository) : Prop where
  idle : w.state.activeTask = none
  points : ∃ p, store.connection.database.PointsIdle p
  unattached : ∀ project, w.state.project = some project →
    store.connection.database.attached project.id = false

theorem pointsIdle_putProject {db : Database} {p q : Project} (h : db.PointsIdle q) :
    ∃ q', (db.putProject p).PointsIdle q' := by
  by_cases same : q.id.asStr = p.id.asStr
  · refine ⟨p, ?_, Database.findProject_putProject p db, ?_⟩
    · rw [← same]
      exact h.pointer
    · rw [← same]
      exact h.idle
  · refine ⟨q, h.pointer, ?_, h.idle⟩
    rw [Database.findProject_putProject_ne same]
    exact h.row

theorem pointsIdle_saved {db : Database} {p : Project} (idle : db.attached p.id.asStr = false) :
    ((db.putProject p).point p.id.asStr).PointsIdle p where
  pointer := Database.lastActiveProjectId_point p.id.asStr _
  row := Database.findProject_putProject p db
  idle := idle

/-- A save under an id without active tasks keeps them out, whether it succeeds or not. -/
theorem points_of_save {p : Project} {c c' : Connection} {result : Except ApplicationError Unit}
    (h : ProjectSave p c result c')
    (points : result = .ok () ∨ ∃ q, c.database.PointsIdle q)
    (idle : result = .ok () → c.database.attached p.id.asStr = false) :
    ∃ q, c'.database.PointsIdle q := by
  cases h with
  | failed e same =>
    rw [same.database]
    exact points.resolve_left nofun
  | unpointed e database =>
    obtain ⟨q, before⟩ := points.resolve_left nofun
    rw [database]
    exact pointsIdle_putProject before
  | saved database =>
    rw [database]
    exact ⟨p, pointsIdle_saved (idle rfl)⟩

/-- No task is attached to a project that a step saves under an id other than its own. -/
theorem idle_of_saves {flag : FlagId} {p : Project} {store : SqliteStateRepository}
    (ok : w.Undisturbed (.finish flag) w') (pending : Pending w flag p)
    (stateLock : w.statePoisoned = false) (repositoryLock : w.repositoryPoisoned = false)
    (found : w.stateRepository = some store)
    (saves : (StateRepository.saveProject p store).1 = .ok ())
    (other : w.projectId ≠ some p.id.asStr) :
    store.connection.database.attached p.id.asStr = false :=
  (ok p (mem_replaces pending stateLock repositoryLock found
    (SqliteStateRepository.savesNext_of_saved saves) other)).2 store found

theorem step_renewed (h : ∀ store, w.stateRepository = some store → Renewed w store)
    (ok : w.Undisturbed a w') (step : w.step streamId a = some (w', o)) :
    ∀ store, w'.stateRepository = some store → Renewed w' store := by
  obtain ⟨sameTask, effect⟩ := step_storage step
  intro store' found'
  cases effect with
  | kept _ store project =>
    have before := h store' (store.symm.trans found')
    exact ⟨sameTask.trans before.idle, before.points, fun s current =>
      before.unattached s (project.symm.trans current)⟩
  | unstored _ _ none_ =>
    rw [found'] at none_
    cases none_
  | saved flag p repo pending stateLock repositoryLock found store project =>
    have before := h repo found
    obtain rfl : store' = _ := Option.some.inj (found'.symm.trans store)
    have outcome := (saveProject_save p repo).2
    have same := attached_of_tasks (tasks_of_save outcome)
    have idle (saves : (StateRepository.saveProject p repo).1 = .ok ()) :
        repo.connection.database.attached p.id.asStr = false := by
      by_cases own : w.projectId = some p.id.asStr
      · obtain ⟨s, current, named⟩ := Option.map_eq_some_iff.mp own
        rw [← named]
        exact before.unattached s current
      · exact idle_of_saves ok pending stateLock repositoryLock found saves own
    refine ⟨sameTask.trans before.idle, points_of_save outcome (.inr before.points) idle, ?_⟩
    intro s current
    rw [same]
    rcases project with kept | ⟨saves, _, opened⟩
    · exact before.unattached s (kept.symm.trans current)
    · obtain rfl := Option.some.inj (opened.symm.trans current)
      exact idle saves

/-- A step that brings another project renews the session. -/
theorem replaced_renewed (ok : w.Undisturbed a w') (step : w.step streamId a = some (w', o))
    (other : w'.projectId ≠ w.projectId) :
    ∀ store, w'.stateRepository = some store → Renewed w' store := by
  obtain ⟨sameTask, effect⟩ := step_storage step
  intro store' found'
  cases effect with
  | kept _ _ project => exact absurd (congrArg (Option.map ProjectSnapshot.id) project) other
  | unstored _ _ none_ =>
    rw [found'] at none_
    cases none_
  | saved flag p repo pending stateLock repositoryLock found store project =>
    obtain rfl : store' = _ := Option.some.inj (found'.symm.trans store)
    have outcome := (saveProject_save p repo).2
    rcases project with kept | ⟨saves, counted, opened⟩
    · exact absurd (congrArg (Option.map ProjectSnapshot.id) kept) other
    · have foreign : w.projectId ≠ some p.id.asStr := by
        intro own
        apply other
        unfold World.projectId at own ⊢
        rw [own, opened]
        rfl
      have next := SqliteStateRepository.savesNext_of_saved saves
      have quiet := (ok p (mem_replaces pending stateLock repositoryLock found next foreign)).1
        counted
      have idle := idle_of_saves ok pending stateLock repositoryLock found saves foreign
      refine ⟨sameTask.trans quiet, points_of_save outcome (.inl saves) fun _ => idle, ?_⟩
      intro s current
      rw [attached_of_tasks (tasks_of_save outcome)]
      obtain rfl := Option.some.inj (opened.symm.trans current)
      exact idle

theorem withStorage_belongs {stored : Option (SqliteStateRepository × Bool)}
    (created : World.withStorage stored = .ok w) : Belongs w := by
  intro task active
  cases stored with
  | none =>
    obtain rfl := Except.ok.inj created
    cases active
  | some p =>
    obtain ⟨repo, poisoned⟩ := p
    cases poisoned with
    | true => cases created
    | false =>
      obtain ⟨recovered, ok, rfl⟩ := withStorage_iff.mp created
      obtain ⟨p, current, loads⟩ := SqliteStateRepository.activeTask_of_execute ok active
      refine ⟨snapshotOf p, _, ?_, rfl, ?_⟩
      · change recovered.project.map snapshotOf = _
        rw [current]
        rfl
      · rw [(SqliteStateRepository.execute_reads repo).2.database]
        exact loads

/-- The active task belongs to the current project, in runs in which no other project is opened
while a task is active, nor saved where tasks are attached to it: it is the one that the store has
for the project; and once another project has been opened, it is what a session recovered from
the store has. -/
theorem active_task_belongs {stored : Option (SqliteStateRepository × Bool)}
    (created : World.withStorage stored = .ok w₀)
    (run : (session SqliteStateRepository streamId).Run World.Undisturbed w₀ tr w) :
    (∀ task, w.state.activeTask = some task → ∃ project store,
      w.state.project = some project ∧ w.stateRepository = some store ∧
        ∀ reader : SqliteStateRepository, reader.poisoned = false →
          reader.connection.database = store.connection.database →
          reader.connection.Sound (reader.connection.loadActiveTask project.id).2 →
          (StateRepository.loadActiveTask project.id reader).1 = .ok (some task)) ∧
    ∀ xs ys a o u v, tr = xs ++ (a, o) :: ys →
      (session SqliteStateRepository streamId).Run World.Undisturbed w₀ xs u →
      (session SqliteStateRepository streamId).step u a = some (v, o) → u.Undisturbed a v →
      (session SqliteStateRepository streamId).Run World.Undisturbed v ys w →
      v.projectId ≠ u.projectId →
      ∀ store, w.stateRepository = some store → ∀ reader : SqliteStateRepository,
        reader.poisoned = false → reader.connection.database = store.connection.database →
        reader.connection.Sound (SessionRecovery.execute reader).2.connection →
        ∃ w', World.withStorage (some (reader, false)) = .ok w' ∧
          w'.state.activeTask = w.state.activeTask := by
  constructor
  · intro task active
    have belongs : Belongs w := run.invariant (withStorage_belongs created)
      fun _ _ _ _ before ok step => step_belongs before ok step
    obtain ⟨project, store, current, found, loads⟩ := belongs task active
    refine ⟨project, store, current, found, fun reader free same sound => ?_⟩
    have value := Connection.loadActiveTask_sound project.id sound
    rw [same, loads] at value
    obtain ⟨c, poisoned⟩ := reader
    obtain rfl : poisoned = false := free
    exact value
  · intro xs ys a o u v _ _ step ok after other store found reader free same sound
    have renewed : ∀ store, w.stateRepository = some store → Renewed w store :=
      after.invariant (replaced_renewed ok step other)
        fun _ _ _ _ before ok step => step_renewed before ok step
    obtain ⟨idle, ⟨p, points⟩, _⟩ := renewed store found
    have value := SqliteStateRepository.execute_sound free sound
    rw [same, points.recovered] at value
    exact ⟨_, withStorage_iff.mpr ⟨_, value, rfl⟩, idle.symm⟩

end Runs

/-- A store with one project and a task of it. -/
def taskedStore : SqliteStateRepository :=
  (StateRepository.saveTask draft
    (StateRepository.saveProject plainProject SqliteStateRepository.inMemory).2).2

/-- The session that is recovered from it. -/
def taskedSession : World SqliteStateRepository :=
  World.init (some (snapshotOf plainProject)) (some draft)
    (some (SessionRecovery.execute taskedStore).2)

theorem taskedSession_created : World.withStorage (some (taskedStore, false)) = .ok taskedSession :=
  withStorage_iff.mpr ⟨⟨some plainProject,some draft⟩, rfl, rfl⟩

/-- A call that opens a project under the given id. -/
def openAs (nextId : String) : List Action := [
  .dispatch ⟨PROTOCOL_VERSION,"a",.openProject "/q",some "k"⟩,
  .firstCheck 0,
  .inspectReturns 0 (.ok ⟨"/q","other"⟩),
  .secondCheck 0 nextId,
  .finish 0]

/-- The project is opened again under its id, and its task stays active. -/
theorem active_task_belongs_again :
    ∃ tr w, (session SqliteStateRepository "s").Run World.Undisturbed taskedSession tr w ∧
      w.state.activeTask = some draft ∧ w.state.project = some ⟨"p","other","/q",false⟩ ∧
      ∃ store, w.stateRepository = some store ∧
        (StateRepository.loadActiveTask "p" store.reopened).1 = .ok (some draft) := by
  have run := Machine.run_of_exec_isSome (session SqliteStateRepository "s") World.Undisturbed
    taskedSession (openAs "p") (by decide +kernel)
  obtain ⟨project, store, current, found, loads⟩ :=
    (active_task_belongs taskedSession_created run).1 draft (by decide +kernel)
  have opened : some project = some ⟨"p","other","/q",false⟩ := by
    rw [← current]
    decide +kernel
  obtain rfl := Option.some.inj opened
  exact ⟨_, _, run, by decide +kernel, current, store, found,
    loads store.reopened rfl rfl fun _ _ _ => rfl⟩

/-- After another project is opened, its predecessor's task is still the active one; the store has
none for it, and a recovered session none at all. -/
theorem active_task_stays_behind :
    ∃ tr w store w', (session SqliteStateRepository "s").Run healthyStep taskedSession tr w ∧
      World.withStorage (some (taskedStore, false)) = .ok taskedSession ∧
      w.state.activeTask = some draft ∧ w.state.project = some ⟨"q","other","/q",false⟩ ∧
      w.stateRepository = some store ∧
      (StateRepository.loadActiveTask "q" store).1 = .ok none ∧
      World.withStorage (some (store, false)) = .ok w' ∧ w'.state.activeTask = none := by
  have run := Machine.run_of_exec_isSome (session SqliteStateRepository "s") healthyStep
    taskedSession (openAs "q") (by decide +kernel)
  exact ⟨_, _, _, _, run, taskedSession_created, by decide +kernel, by decide +kernel, rfl,
    by decide +kernel, rfl, rfl⟩

end Kesharon.Daemon

import Kesharon.Daemon.TaskStorage

namespace Kesharon.Daemon

open Framework Framework.Sql Domain Application

namespace Database

/-- What `load_project` reads where no statement fails. -/
def project (id : String) (db : Database) : Except ApplicationError (Option Project) :=
  match db.findProject id with
  | none => .ok none
  | some row => (parseProjectRow row).map some

def lastActiveProject (db : Database) : Except ApplicationError (Option Project) :=
  match db.lastActiveProjectId with
  | .error _ => .ok none
  | .ok id => db.project id

def task (id : String) (db : Database) : Except ApplicationError (Option Task) :=
  match db.findTask id with
  | none => .ok none
  | some row => (parseTaskRow row).map some

def activeTask (projectId : String) (db : Database) : Except ApplicationError (Option Task) :=
  match db.activeTaskId projectId with
  | .error _ => .ok none
  | .ok id => db.task id

/-- The project a task is saved under where no lookup fails. -/
def projectFor (taskId : String) (db : Database) : Except ApplicationError String :=
  match db.projectIdOfTask taskId with
  | .ok pid => .ok pid
  | .error _ =>
    match db.lastActiveProjectId with
    | .ok pid => .ok pid
    | .error _ => db.newestProjectId.mapError fun _ =>
      .storage "Cannot save task without an associated project"

/-- What a session recovers where no statement fails. -/
def recovered (db : Database) : Except ApplicationError RecoveredSession :=
  match db.lastActiveProject with
  | .error e => .error e
  | .ok none => .ok ⟨none,none⟩
  | .ok (some p) => (db.activeTask p.id.asStr).map fun task => ⟨some p,task⟩

end Database

namespace Connection

variable {α : Type} {c c' c'' : Connection}

/-- Statements that only read. -/
structure Reads (c c' : Connection) : Prop extends Same c c' where
  statements_le : c.statements ≤ c'.statements

theorem Reads.refl (c : Connection) : Reads c c := ⟨⟨rfl, rfl⟩, Nat.le_refl _⟩

theorem Reads.trans (h : Reads c c') (h' : Reads c' c'') : Reads c c'' :=
  ⟨h.toSame.trans h'.toSame, Nat.le_trans h.statements_le h'.statements_le⟩

/-- None of the statements between two connections fails. -/
def Sound (c c' : Connection) : Prop :=
  ∀ i, c.statements ≤ i → i < c'.statements → c.failure i = none

theorem Sound.before (h : Sound c c'') (r : Reads c' c'') : Sound c c' := by
  intro i first last
  have le := r.statements_le
  exact h i first (by omega)

theorem Sound.after (h : Sound c c'') (r : Reads c c') : Sound c' c'' := by
  intro i first last
  have le := r.statements_le
  rw [r.failure]
  exact h i (by omega) last

theorem query_statements (select : Database → Except String α) (c : Connection) :
    (c.query select).2.statements = c.statements + 1 := by
  unfold query
  cases c.failure c.statements <;> rfl

theorem query_reads (select : Database → Except String α) (c : Connection) :
    Reads c (c.query select).2 :=
  ⟨query_same select c, by rw [query_statements]; omega⟩

theorem query_sound (select : Database → Except String α) (h : Sound c (c.query select).2) :
    (c.query select).1 = select c.database := by
  apply query_of_sound
  apply h _ (Nat.le_refl _)
  rw [query_statements]
  omega

/-- A load by key: a query, and the parse of the row it finds. -/
def loadRow {ρ : Type} (row : Database → Option ρ) (parse : ρ → Except ApplicationError α)
    (c : Connection) : Except ApplicationError (Option α) × Connection :=
  match c.query fun db => .ok (row db) with
  | (.error e, c) => (.error (toStorageErr e), c)
  | (.ok none, c) => (.ok none, c)
  | (.ok (some r), c) => ((parse r).map some, c)

/-- A load whose key is looked up first; a lookup that fails counts as one that finds nothing. -/
def loadThrough (select : Database → Except String String)
    (load : String → Connection → Except ApplicationError (Option α) × Connection)
    (c : Connection) : Except ApplicationError (Option α) × Connection :=
  match c.query select with
  | (.error _, c) => (.ok none, c)
  | (.ok id, c) => load id c

theorem loadRow_reads {ρ : Type} (row : Database → Option ρ)
    (parse : ρ → Except ApplicationError α) (c : Connection) :
    Reads c (loadRow row parse c).2 := by
  have reads := query_reads (fun db => .ok (row db)) c
  unfold loadRow
  cases h : c.query fun db => .ok (row db) with
  | mk r d =>
    rw [h] at reads
    rcases r with e | (_ | r) <;> exact reads

theorem loadRow_sound {ρ : Type} (row : Database → Option ρ)
    (parse : ρ → Except ApplicationError α) (h : Sound c (loadRow row parse c).2) :
    (loadRow row parse c).1 = match row c.database with
      | none => .ok none
      | some r => (parse r).map some := by
  have read := query_sound (c := c) fun db => .ok (row db)
  unfold loadRow at h ⊢
  cases hq : c.query fun db => .ok (row db) with
  | mk r d =>
    rw [hq] at read h
    have read := read (by rcases r with e | (_ | r) <;> exact h)
    obtain rfl : r = .ok (row c.database) := read
    cases row c.database <;> rfl

section Through

variable {load : String → Connection → Except ApplicationError (Option α) × Connection}

theorem loadThrough_reads (select : Database → Except String String)
    (reads : ∀ id c, Reads c (load id c).2) (c : Connection) :
    Reads c (loadThrough select load c).2 := by
  have first := query_reads select c
  unfold loadThrough
  cases h : c.query select with
  | mk r d =>
    rw [h] at first
    cases r with
    | error e => exact first
    | ok id => exact first.trans (reads id d)

theorem loadThrough_sound {value : String → Database → Except ApplicationError (Option α)}
    (select : Database → Except String String) (reads : ∀ id c, Reads c (load id c).2)
    (loads : ∀ id c, Sound c (load id c).2 → (load id c).1 = value id c.database)
    (h : Sound c (loadThrough select load c).2) :
    (loadThrough select load c).1 = match select c.database with
      | .error _ => .ok none
      | .ok id => value id c.database := by
  have read := query_sound (c := c) select
  have first := query_reads select c
  unfold loadThrough at h ⊢
  cases hq : c.query select with
  | mk r d =>
    rw [hq] at read first h
    cases r with
    | error e => rw [← read h]
    | ok id =>
      rw [← read (h.before (reads id d))]
      have loaded := loads id d (h.after first)
      rw [first.database] at loaded
      exact loaded

end Through

theorem loadProject_eq (id : String) (c : Connection) :
    c.loadProject id = loadRow (Database.findProject id) parseProjectRow c := by
  unfold loadProject loadRow
  rcases c.query fun db => .ok (db.findProject id) with ⟨_ | _ | _, _⟩ <;> rfl

theorem loadTask_eq (id : String) (c : Connection) :
    c.loadTask id = loadRow (Database.findTask id) parseTaskRow c := by
  unfold loadTask loadRow
  rcases c.query fun db => .ok (db.findTask id) with ⟨_ | _ | _, _⟩ <;> rfl

theorem loadProject_reads (id : String) (c : Connection) : Reads c (c.loadProject id).2 := by
  rw [loadProject_eq]
  exact loadRow_reads _ _ c

theorem loadProject_sound (id : String) (h : Sound c (c.loadProject id).2) :
    (c.loadProject id).1 = c.database.project id := by
  rw [loadProject_eq] at h ⊢
  rw [loadRow_sound _ _ h]
  unfold Database.project
  cases c.database.findProject id <;> rfl

theorem loadTask_reads (id : String) (c : Connection) : Reads c (c.loadTask id).2 := by
  rw [loadTask_eq]
  exact loadRow_reads _ _ c

theorem loadTask_sound (id : String) (h : Sound c (c.loadTask id).2) :
    (c.loadTask id).1 = c.database.task id := by
  rw [loadTask_eq] at h ⊢
  rw [loadRow_sound _ _ h]
  unfold Database.task
  cases c.database.findTask id <;> rfl

theorem loadLastActiveProject_reads (c : Connection) : Reads c c.loadLastActiveProject.2 :=
  loadThrough_reads Database.lastActiveProjectId loadProject_reads c

theorem loadLastActiveProject_sound (h : Sound c c.loadLastActiveProject.2) :
    c.loadLastActiveProject.1 = c.database.lastActiveProject :=
  loadThrough_sound Database.lastActiveProjectId loadProject_reads
    (fun id _ => loadProject_sound id) h

theorem loadActiveTask_reads (projectId : String) (c : Connection) :
    Reads c (c.loadActiveTask projectId).2 :=
  loadThrough_reads (Database.activeTaskId projectId) loadTask_reads c

theorem loadActiveTask_sound (projectId : String) (h : Sound c (c.loadActiveTask projectId).2) :
    (c.loadActiveTask projectId).1 = c.database.activeTask projectId :=
  loadThrough_sound (Database.activeTaskId projectId) loadTask_reads
    (fun id _ => loadTask_sound id) h

theorem projectFor_sound (taskId : String) (h : Sound c (c.projectFor taskId).2) :
    (c.projectFor taskId).1 = c.database.projectFor taskId := by
  have first := query_sound (c := c) (Database.projectIdOfTask taskId)
  have reads := query_reads (Database.projectIdOfTask taskId) c
  unfold projectFor at h ⊢
  unfold Database.projectFor
  cases h₁ : c.query (Database.projectIdOfTask taskId) with
  | mk r d =>
    rw [h₁] at first reads h
    cases r with
    | ok pid => rw [← first h]
    | error e =>
      have second := query_sound (c := d) Database.lastActiveProjectId
      have reads' := query_reads Database.lastActiveProjectId d
      dsimp only at h ⊢
      cases h₂ : d.query Database.lastActiveProjectId with
      | mk r' d' =>
        rw [h₂] at second reads' h
        cases r' with
        | ok pid =>
          have sound := h.after reads
          rw [← first (h.before reads'), ← reads.database]
          dsimp only
          rw [← second sound]
        | error e =>
          have third := query_sound (c := d') Database.newestProjectId
          have reads'' := query_reads Database.newestProjectId d'
          dsimp only at h ⊢
          cases h₃ : d'.query Database.newestProjectId with
          | mk r'' d'' =>
            rw [h₃] at third reads'' h
            have sound : c.Sound d'' := by cases r'' <;> exact h
            have later := sound.after reads
            rw [← first (sound.before (reads'.trans reads'')), ← reads.database]
            dsimp only
            rw [← second (later.before reads''), ← reads'.database]
            dsimp only
            rw [← third (later.after reads')]
            cases r'' <;> rfl

end Connection

theorem ofInt_i64FromBool (b : Bool) : decide (i64FromBool b ≠ 0) = b := by
  cases b <;> rfl

/-- A stored project is read back whole. -/
theorem parseProjectRow_params (p : Project) : parseProjectRow (projectParams p) = .ok p := by
  have name := nonBlank_text ProjectError.emptyDisplayName p.displayName
  have root := nonBlank_text ProjectError.emptyCanonicalRoot p.canonicalRoot
  simp only [parseProjectRow, projectParams, Value.getText_text, Value.getInteger_integer,
    Except.mapError, bind, Except.bind, ProjectId.new_asStr, Project.new, name, root, pure,
    Except.pure, ofInt_i64FromBool]

namespace Database

/-- The row of a project, written or overwritten. -/
def putProject (p : Project) (db : Database) : Database :=
  { db with projects := upsert ProjectRow.id (fun _ new => new) (projectParams p) db.projects }

/-- The pointer to the last active project. -/
def point (id : String) (db : Database) : Database :=
  { db with
    sessionMetadata := upsert MetadataRow.key (fun _ new => new)
      ⟨.text "last_active_project_id",.text id⟩ db.sessionMetadata }

/-- Every place where a project is named. -/
def projectIds (db : Database) : List Value :=
  db.projects.map ProjectRow.id ++ db.tasks.map TaskRow.projectId ++
    db.sessionMetadata.map MetadataRow.value

theorem findProject_putProject (p : Project) (db : Database) :
    (db.putProject p).findProject p.id.asStr = some (projectParams p) :=
  find?_upsert_replace ProjectRow.id (projectParams p) db.projects

theorem findProject_putProject_ne {p : Project} {id : String} (h : id ≠ p.id.asStr)
    (db : Database) : (db.putProject p).findProject id = db.findProject id := by
  apply find?_upsert_ne (fun _ => rfl)
  simpa [projectParams] using h

theorem lastActiveProjectId_point (id : String) (db : Database) :
    (db.point id).lastActiveProjectId = .ok id := by
  have found := find?_upsert_replace MetadataRow.key
    ⟨.text "last_active_project_id",.text id⟩ db.sessionMetadata
  unfold lastActiveProjectId point
  rw [found]
  rfl

/-- The pointer of a store is among the ids it names. -/
theorem mem_projectIds_of_pointer {id : String} {db : Database}
    (h : db.lastActiveProjectId = .ok id) : .text id ∈ db.projectIds := by
  unfold lastActiveProjectId at h
  cases found : db.sessionMetadata.find? fun r => r.key = .text "last_active_project_id" with
  | none => simp [found, firstRow] at h
  | some row =>
    have among := List.mem_of_find?_eq_some found
    have value : row.value = .text id := by
      cases hv : row.value with
      | text s =>
        rw [found] at h
        simp only [firstRow, hv, Value.getText_text, Except.ok.injEq] at h
        rw [h]
      | _ => simp [found, firstRow, hv, Value.getText] at h
    unfold projectIds
    rw [← value]
    simp only [List.mem_append, List.mem_map]
    exact .inr ⟨row, among, rfl⟩

/-- A project that has been pointed to is the last active one. -/
theorem lastActiveProject_saved (p : Project) (db : Database) :
    ((db.putProject p).point p.id.asStr).lastActiveProject = .ok (some p) := by
  unfold lastActiveProject
  rw [lastActiveProjectId_point]
  change (db.putProject p).project p.id.asStr = _
  unfold project
  rw [findProject_putProject]
  change (parseProjectRow (projectParams p)).map some = _
  rw [parseProjectRow_params]
  rfl

/-- The row of a new project is not read until it is pointed to. -/
theorem lastActiveProject_putProject {p : Project} {db : Database}
    (fresh : .text p.id.asStr ∉ db.projectIds) :
    (db.putProject p).lastActiveProject = db.lastActiveProject := by
  unfold lastActiveProject
  have same : (db.putProject p).lastActiveProjectId = db.lastActiveProjectId := rfl
  rw [same]
  cases h : db.lastActiveProjectId with
  | error e => rfl
  | ok id =>
    have other : id ≠ p.id.asStr := by
      rintro rfl
      exact fresh (mem_projectIds_of_pointer h)
    change (db.putProject p).project id = db.project id
    unfold project
    rw [findProject_putProject_ne other]

theorem lastActiveProject_of_recovered {db : Database} {project : Option Project}
    {task : Option Task} (h : db.recovered = .ok ⟨project,task⟩) :
    db.lastActiveProject = .ok project := by
  unfold recovered at h
  cases last : db.lastActiveProject with
  | error e => simp [last] at h
  | ok found =>
    cases found with
    | none =>
      simp only [last, Except.ok.injEq, RecoveredSession.mk.injEq] at h
      rw [← h.1]
    | some p =>
      cases active : db.activeTask p.id.asStr with
      | error e => simp [last, active, Except.map] at h
      | ok task' =>
        simp only [last, active, Except.map, Except.ok.injEq, RecoveredSession.mk.injEq] at h
        rw [← h.1]

theorem recovered_putProject {p : Project} {db : Database}
    (fresh : .text p.id.asStr ∉ db.projectIds) : (db.putProject p).recovered = db.recovered := by
  unfold recovered
  rw [lastActiveProject_putProject fresh]
  rfl

/-- No task is attached to a project the store does not name. -/
theorem activeTask_fresh {id : String} {db : Database} (fresh : .text id ∉ db.projectIds) :
    db.activeTask id = .ok none := by
  have nobody : (db.tasks.reverse.find? fun r =>
      r.projectId = .text id ∧ r.isActive = .integer 1) = none := by
    apply List.find?_eq_none.mpr
    intro row among attached
    have here : row.projectId = .text id := (of_decide_eq_true attached).1
    apply fresh
    unfold projectIds
    rw [← here]
    simp only [List.mem_append, List.mem_map]
    exact .inl (.inr ⟨row, List.mem_reverse.mp among, rfl⟩)
  unfold activeTask activeTaskId
  rw [nobody]
  rfl

theorem recovered_saved {p : Project} {db : Database}
    (fresh : .text p.id.asStr ∉ db.projectIds) :
    ((db.putProject p).point p.id.asStr).recovered = .ok ⟨some p,none⟩ := by
  have tasks : ((db.putProject p).point p.id.asStr).activeTask p.id.asStr =
      db.activeTask p.id.asStr := rfl
  unfold recovered
  rw [lastActiveProject_saved]
  dsimp only
  rw [tasks, activeTask_fresh fresh]
  rfl

theorem projectIds_putProject {p : Project} {db : Database} {v : Value}
    (h : v ∈ (db.putProject p).projectIds) : v ∈ db.projectIds ∨ v = .text p.id.asStr := by
  simp only [projectIds, List.mem_append, List.mem_map] at h ⊢
  rcases h with (⟨row, among, rfl⟩ | task) | pointer
  · rcases mem_upsert among with old | ⟨rfl, _⟩ | ⟨old, _, _, rfl⟩
    · exact .inl (.inl (.inl ⟨row, old, rfl⟩))
    · exact .inr rfl
    · exact .inr rfl
  · exact .inl (.inl (.inr task))
  · exact .inl (.inr pointer)

theorem projectIds_point {id : String} {db : Database} {v : Value}
    (h : v ∈ (db.point id).projectIds) : v ∈ db.projectIds ∨ v = .text id := by
  simp only [projectIds, List.mem_append, List.mem_map] at h ⊢
  rcases h with other | ⟨row, among, rfl⟩
  · exact .inl (.inl other)
  · rcases mem_upsert among with old | ⟨rfl, _⟩ | ⟨old, _, _, rfl⟩
    · exact .inl (.inr ⟨row, old, rfl⟩)
    · exact .inr rfl
    · exact .inr rfl

end Database

/-- How a save of a project ends: without effect, between its two statements, or complete. -/
inductive ProjectSave (p : Project) (c : Connection) :
    Except ApplicationError Unit → Connection → Prop where
  | failed {c' : Connection} (e : ApplicationError) (same : Connection.Same c c') :
      ProjectSave p c (.error e) c'
  | unpointed {c' : Connection} (e : ApplicationError)
      (database : c'.database = c.database.putProject p) (failure : c'.failure = c.failure) :
      ProjectSave p c (.error e) c'
  | saved {c' : Connection} (database : c'.database = (c.database.putProject p).point p.id.asStr)
      (failure : c'.failure = c.failure) : ProjectSave p c (.ok ()) c'

theorem Connection.saveProject_outcome (p : Project) (c : Connection) :
    ProjectSave p c (c.saveProject p).1 (c.saveProject p).2 := by
  unfold saveProject
  cases first : c.execute (Database.upsertProject (projectParams p)) with
  | mk r d =>
    cases r with
    | error e => exact .failed _ (execute_error first)
    | ok u =>
      obtain ⟨written, failure⟩ := execute_ok first
      have written : c.database.putProject p = d.database := Except.ok.inj written
      dsimp only
      cases second : d.execute (Database.upsertMetadata
          ⟨.text "last_active_project_id",.text p.id.asStr⟩) with
      | mk r' d' =>
        cases r' with
        | error e =>
          have same := execute_error second
          exact .unpointed _ (same.database.trans written.symm) (same.failure.trans failure)
        | ok u =>
          obtain ⟨pointed, failure'⟩ := execute_ok second
          have pointed : d.database.point p.id.asStr = d'.database := Except.ok.inj pointed
          exact .saved (by rw [← pointed, ← written]) (failure'.trans failure)

namespace SqliteStateRepository

variable {repo repo' : SqliteStateRepository}

theorem saveProject_outcome {p : Project} {result : Except ApplicationError Unit}
    (free : repo.poisoned = false) (save : StateRepository.saveProject p repo = (result, repo')) :
    repo'.poisoned = false ∧ ProjectSave p repo.connection result repo'.connection := by
  obtain ⟨c, poisoned⟩ := repo
  obtain rfl : poisoned = false := free
  obtain ⟨rfl, rfl⟩ := Prod.mk.inj save
  exact ⟨rfl, c.saveProject_outcome p⟩

/-- A save finds the lock of the connection poisoned, or is one of its outcomes. -/
theorem saveProject_cases (p : Project) (repo : SqliteStateRepository) :
    (∃ e, StateRepository.saveProject p repo = (.error e, repo)) ∨
      ProjectSave p repo.connection (StateRepository.saveProject p repo).1
        (StateRepository.saveProject p repo).2.connection := by
  cases locked : repo.poisoned with
  | true =>
    refine .inl ⟨.storage "mutex poisoned", ?_⟩
    simp [StateRepository.saveProject, withLock, locked]
  | false => exact .inr (saveProject_outcome locked rfl).2

/-- A save names no project but the one it is given. -/
theorem projectIds_saveProject {p : Project} {v : Value}
    (h : v ∈ (StateRepository.saveProject p repo).2.connection.database.projectIds) :
    v ∈ repo.connection.database.projectIds ∨ v = .text p.id.asStr := by
  rcases saveProject_cases p repo with ⟨_, same⟩ | outcome
  · rw [same] at h
    exact .inl h
  · generalize (StateRepository.saveProject p repo).1 = result at outcome
    generalize (StateRepository.saveProject p repo).2.connection = c' at outcome h
    cases outcome with
    | failed _ same =>
      rw [same.database] at h
      exact .inl h
    | unpointed _ database failure =>
      rw [database] at h
      exact Database.projectIds_putProject h
    | saved database failure =>
      rw [database] at h
      rcases Database.projectIds_point h with written | here
      · exact Database.projectIds_putProject written
      · exact .inr here

/-- A recovery only reads. -/
theorem execute_reads (repo : SqliteStateRepository) :
    (SessionRecovery.execute repo).2.poisoned = repo.poisoned ∧
      Connection.Reads repo.connection (SessionRecovery.execute repo).2.connection := by
  obtain ⟨c, poisoned⟩ := repo
  cases poisoned with
  | true => exact ⟨rfl, .refl c⟩
  | false =>
    have first := c.loadLastActiveProject_reads
    unfold SessionRecovery.execute
    simp only [StateRepository.loadLastActiveProject, StateRepository.loadActiveTask, withLock]
    cases h : c.loadLastActiveProject with
    | mk r d =>
      rw [h] at first
      rcases r with e | (_ | p)
      · exact ⟨rfl, first⟩
      · exact ⟨rfl, first⟩
      · have second := d.loadActiveTask_reads p.id.asStr
        simp only [Bool.false_eq_true, if_false]
        cases h' : d.loadActiveTask p.id.asStr with
        | mk r' d' =>
          rw [h'] at second
          cases r' <;> exact ⟨rfl, first.trans second⟩

theorem execute_sound (free : repo.poisoned = false)
    (sound : repo.connection.Sound (SessionRecovery.execute repo).2.connection) :
    (SessionRecovery.execute repo).1 = repo.connection.database.recovered := by
  obtain ⟨c, poisoned⟩ := repo
  obtain rfl : poisoned = false := free
  have first := c.loadLastActiveProject_reads
  have value := c.loadLastActiveProject_sound
  unfold SessionRecovery.execute at sound ⊢
  unfold Database.recovered
  simp only [StateRepository.loadLastActiveProject, StateRepository.loadActiveTask, withLock] at sound ⊢
  cases h : c.loadLastActiveProject with
  | mk r d =>
    rw [h] at first value
    simp only [h, Bool.false_eq_true, if_false] at sound
    rcases r with e | (_ | p)
    · rw [← value sound]
      rfl
    · rw [← value sound]
      rfl
    · have second := d.loadActiveTask_reads p.id.asStr
      have task := d.loadActiveTask_sound p.id.asStr
      simp only [Bool.false_eq_true, if_false] at sound ⊢
      cases h' : d.loadActiveTask p.id.asStr with
      | mk r' d' =>
        rw [h'] at second task
        rw [h'] at sound
        have sound : c.Sound d' := by cases r' <;> exact sound
        rw [← value (sound.before second)]
        have task := task (sound.after first)
        rw [first.database] at task
        dsimp only
        rw [← task]
        cases r' <;> rfl

end SqliteStateRepository

end Kesharon.Daemon

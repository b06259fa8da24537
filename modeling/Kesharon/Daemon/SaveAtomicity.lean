import Kesharon.Daemon.StoreHistory

namespace Kesharon.Daemon

open Framework Framework.Sql Domain Application

/-- The same projects are read, under the same keys in the same order, and all else is equal. -/
structure Database.Alike (db db' : Database) : Prop where
  keys : db'.projects.map ProjectRow.id = db.projects.map ProjectRow.id
  project : ∀ id, db'.project id = db.project id
  tasks : db'.tasks = db.tasks
  taskCheckpoints : db'.taskCheckpoints = db.taskCheckpoints
  sessionMetadata : db'.sessionMetadata = db.sessionMetadata

namespace Database

variable {db db' : Database}

theorem Alike.refl (db : Database) : Alike db db := ⟨rfl, fun _ => rfl, rfl, rfl, rfl⟩

theorem project_putProject_self (p : Project) (db : Database) :
    (db.putProject p).project p.id.asStr = .ok (some p) := by
  unfold project
  rw [findProject_putProject]
  change (parseProjectRow (projectParams p)).map some = _
  rw [parseProjectRow_params]
  rfl

theorem project_putProject_ne {p : Project} {id : String} (h : id ≠ p.id.asStr) (db : Database) :
    (db.putProject p).project id = db.project id := by
  unfold project
  rw [findProject_putProject_ne h]

theorem keys_putProject (p : Project) (db : Database) :
    (db.putProject p).projects.map ProjectRow.id =
      if .text p.id.asStr ∈ db.projects.map ProjectRow.id then db.projects.map ProjectRow.id
      else db.projects.map ProjectRow.id ++ [.text p.id.asStr] :=
  map_key_upsert (fun _ => rfl) db.projects

/-- A project that is read as it is going to be written may be written. -/
theorem Alike.of_known {p : Project} (known : db.project p.id.asStr = .ok (some p)) :
    Alike db (db.putProject p) := by
  refine ⟨?_, ?_, rfl, rfl, rfl⟩
  · have key : .text p.id.asStr ∈ db.projects.map ProjectRow.id := by
      unfold Database.project at known
      cases found : db.findProject p.id.asStr with
      | none => simp [found] at known
      | some row =>
        have same : row.id = .text p.id.asStr := by simpa using List.find?_some found
        exact List.mem_map.mpr ⟨row, List.mem_of_find?_eq_some found, same⟩
    rw [keys_putProject, if_pos key]
  · intro id
    by_cases here : id = p.id.asStr
    · rw [here, project_putProject_self, known]
    · rw [project_putProject_ne here]

theorem Alike.putProject (h : Alike db db') (p : Project) :
    Alike (db.putProject p) (db'.putProject p) := by
  refine ⟨?_, ?_, h.tasks, h.taskCheckpoints, h.sessionMetadata⟩
  · rw [keys_putProject, keys_putProject, h.keys]
  · intro id
    by_cases here : id = p.id.asStr
    · rw [here, project_putProject_self, project_putProject_self]
    · rw [project_putProject_ne here, project_putProject_ne here, h.project]

theorem Alike.point (h : Alike db db') (id : String) : Alike (db.point id) (db'.point id) := by
  refine ⟨h.keys, h.project, h.tasks, h.taskCheckpoints, ?_⟩
  unfold Database.point
  rw [h.sessionMetadata]

theorem Alike.lastActiveProjectId (h : Alike db db') :
    db.lastActiveProjectId = db'.lastActiveProjectId := by
  unfold Database.lastActiveProjectId
  rw [h.sessionMetadata]

theorem Alike.projectIdOfTask (h : Alike db db') (id : String) :
    db.projectIdOfTask id = db'.projectIdOfTask id := by
  unfold Database.projectIdOfTask Database.findTask
  rw [h.tasks]

theorem Alike.newestProjectId (h : Alike db db') : db.newestProjectId = db'.newestProjectId := by
  have newest (db : Database) : db.newestProjectId =
      firstRow (fun id => id.getText 0 "id") (db.projects.map ProjectRow.id).getLast? := by
    unfold Database.newestProjectId
    rw [List.getLast?_map]
    cases db.projects.getLast? <;> rfl
  rw [newest, newest, h.keys]

/-- How a change ends on databases that are alike. -/
def AlikeResults : Except String Database → Except String Database → Prop
  | .ok db, .ok db' => Alike db db'
  | .error e, .error e' => e = e'
  | _, _ => False

theorem Alike.upsertTask (h : Alike db db') (row : TaskRow) :
    AlikeResults (db.upsertTask row) (db'.upsertTask row) := by
  have known (db : Database) : (db.projects.any fun p => p.id = row.projectId) =
      (db.projects.map ProjectRow.id).any fun id => id = row.projectId := by
    rw [List.any_map]
    rfl
  unfold Database.upsertTask
  rw [known, known, h.tasks, h.keys]
  split_ifs
  · exact ⟨h.keys, h.project, rfl, h.taskCheckpoints, h.sessionMetadata⟩
  · exact rfl

theorem Alike.upsertCheckpoint (h : Alike db db') (row : CheckpointRow) :
    AlikeResults (db.upsertCheckpoint row) (db'.upsertCheckpoint row) := by
  unfold Database.upsertCheckpoint
  rw [h.tasks, h.taskCheckpoints]
  split_ifs
  · exact ⟨h.keys, h.project, rfl, rfl, h.sessionMetadata⟩
  · exact rfl

end Database

namespace Connection

/-- Connections to databases that are alike, with the same failures to come. -/
structure Alike (c c' : Connection) : Prop where
  database : c.database.Alike c'.database
  failure : c'.failure = c.failure
  statements : c'.statements = c.statements

/-- A computation that cannot tell them apart. -/
def Blind {α : Type} (m : Connection → α × Connection) : Prop :=
  ∀ c c', Alike c c' → (m c').1 = (m c).1 ∧ Alike (m c).2 (m c').2

variable {α β ε : Type}

theorem query_blind {select : Database → Except String α}
    (same : ∀ db db', db.Alike db' → select db = select db') : Blind (query select) := by
  intro c c' alike
  unfold query
  rw [alike.failure, alike.statements]
  cases c.failure c.statements with
  | some message => exact ⟨rfl, alike.database, rfl, rfl⟩
  | none => exact ⟨(same _ _ alike.database).symm, alike.database, rfl, rfl⟩

theorem execute_blind {change : Database → Except String Database}
    (same : ∀ db db', db.Alike db' → Database.AlikeResults (change db) (change db')) :
    Blind (execute change) := by
  intro c c' alike
  have results := same _ _ alike.database
  unfold execute
  rw [alike.failure, alike.statements]
  cases c.failure c.statements with
  | some message => exact ⟨rfl, alike.database, rfl, rfl⟩
  | none =>
    cases first : change c.database with
    | error e =>
      cases second : change c'.database with
      | error e' =>
        rw [first, second] at results
        obtain rfl : e = e' := results
        exact ⟨rfl, alike.database, rfl, rfl⟩
      | ok db =>
        rw [first, second] at results
        exact results.elim
    | ok db =>
      cases second : change c'.database with
      | error e' =>
        rw [first, second] at results
        exact results.elim
      | ok db' =>
        rw [first, second] at results
        exact ⟨rfl, results, rfl, rfl⟩

theorem Blind.cases {m : Connection → α × Connection} (blind : Blind m) {c c' : Connection}
    (alike : Alike c c') : ∃ a d d', m c = (a, d) ∧ m c' = (a, d') ∧ Alike d d' := by
  obtain ⟨same, after⟩ := blind c c' alike
  exact ⟨(m c).1, (m c).2, (m c').2, rfl, Prod.ext same rfl, after⟩

theorem loadProject_blind (id : String) : Blind (loadProject id) := by
  intro c c' alike
  have read := alike.database.project id
  unfold loadProject query
  rw [alike.failure, alike.statements]
  cases c.failure c.statements with
  | some message => exact ⟨rfl, alike.database, rfl, rfl⟩
  | none =>
    unfold Database.project at read
    dsimp only
    cases first : c.database.findProject id <;> cases second : c'.database.findProject id <;>
      rw [first, second] at read <;> exact ⟨read, alike.database, rfl, rfl⟩

theorem loadLastActiveProject_blind : Blind loadLastActiveProject := by
  intro c c' alike
  have blind := query_blind fun _ _ alike => alike.lastActiveProjectId
  obtain ⟨r, d, d', first, second, next⟩ := blind.cases alike
  unfold loadLastActiveProject
  rw [first, second]
  cases r with
  | error e => exact ⟨rfl, next⟩
  | ok id => exact loadProject_blind id d d' next

theorem projectFor_blind (taskId : String) : Blind (projectFor taskId) := by
  intro c₀ c₀' alike
  have attached := query_blind fun _ _ alike => Database.Alike.projectIdOfTask alike taskId
  have pointed := query_blind fun _ _ alike => alike.lastActiveProjectId
  have newest := query_blind fun _ _ alike => alike.newestProjectId
  obtain ⟨r₁, c₁, c₁', first, first', next₁⟩ := attached.cases alike
  obtain ⟨r₂, c₂, c₂', second, second', next₂⟩ := pointed.cases next₁
  obtain ⟨r₃, c₃, c₃', third, third', next₃⟩ := newest.cases next₂
  unfold projectFor
  rw [first, first']
  cases r₁ with
  | ok id => exact ⟨rfl, next₁⟩
  | error e =>
    dsimp only
    rw [second, second']
    cases r₂ with
    | ok id => exact ⟨rfl, next₂⟩
    | error e =>
      dsimp only
      rw [third, third']
      cases r₃ <;> exact ⟨rfl, next₃⟩

theorem saveProject_blind (p : Project) : Blind (saveProject p) := by
  intro c₀ c₀' alike
  have row : Blind (execute (Database.upsertProject (projectParams p))) :=
    execute_blind fun _ _ alike => alike.putProject p
  have pointer : Blind (execute (Database.upsertMetadata
      ⟨.text "last_active_project_id",.text p.id.asStr⟩)) :=
    execute_blind fun _ _ alike => alike.point p.id.asStr
  obtain ⟨r₁, c₁, c₁', first, first', next₁⟩ := row.cases alike
  obtain ⟨r₂, c₂, c₂', second, second', next₂⟩ := pointer.cases next₁
  unfold saveProject
  rw [first, first']
  cases r₁ with
  | error e => exact ⟨rfl, next₁⟩
  | ok u =>
    dsimp only
    rw [second, second']
    cases r₂ <;> exact ⟨rfl, next₂⟩

theorem saveTask_blind (task : Task) : Blind (saveTask task) := by
  intro c₀ c₀' alike
  obtain ⟨r₁, c₁, c₁', first, first', next₁⟩ := (projectFor_blind task.id.asStr).cases alike
  unfold saveTask
  rw [first, first']
  cases r₁ with
  | error e => exact ⟨rfl, next₁⟩
  | ok projectId =>
    dsimp only
    cases taskParams task projectId with
    | error e => exact ⟨rfl, next₁⟩
    | ok row =>
      have upsert := execute_blind fun _ _ alike => Database.Alike.upsertTask alike row
      obtain ⟨r₂, c₂, c₂', second, second', next₂⟩ := upsert.cases next₁
      dsimp only
      rw [second, second']
      cases r₂ <;> exact ⟨rfl, next₂⟩

theorem saveCheckpoint_blind (taskId : String) (checkpoint : TaskCheckpoint) :
    Blind (saveCheckpoint taskId checkpoint) := by
  intro c₀ c₀' alike
  unfold saveCheckpoint
  cases i64FromU64 checkpoint.timestampMillis with
  | error e => exact ⟨rfl, alike⟩
  | ok ts =>
    have upsert := execute_blind fun _ _ alike => Database.Alike.upsertCheckpoint alike
      (checkpointParams checkpoint taskId ts)
    obtain ⟨r, c, c', first, second, next⟩ := upsert.cases alike
    simp only [checkpointParams] at first second
    dsimp only
    rw [first, second]
    cases r <;> exact ⟨rfl, next⟩

theorem run_blind (call : StoreCall) : Blind call.run := by
  cases call with
  | saveProject p => exact saveProject_blind p
  | saveTask t => exact saveTask_blind t
  | saveCheckpoint taskId checkpoint => exact saveCheckpoint_blind taskId checkpoint

/-- A connection after some saves. -/
def afterCalls (c : Connection) (calls : List StoreCall) : Connection :=
  calls.foldl (fun c call => (call.run c).2) c

theorem Alike.afterCalls {c c' : Connection} (h : Alike c c') (calls : List StoreCall) :
    Alike (c.afterCalls calls) (c'.afterCalls calls) := by
  induction calls generalizing c c' with
  | nil => exact h
  | cons call calls ih => exact ih (run_blind call c c' h).2

end Connection

/-- Whatever is saved next, and whichever statements fail, the same is seen of two stores: each
project, the last active project, and the project that a task is saved under. -/
def SeenAlike (db db' : Database) : Prop :=
  ∀ calls failure n,
    let c := Connection.afterCalls ⟨db,failure,n⟩ calls
    let c' := Connection.afterCalls ⟨db',failure,n⟩ calls
    (∀ id, (c'.loadProject id).1 = (c.loadProject id).1) ∧
      c'.loadLastActiveProject.1 = c.loadLastActiveProject.1 ∧
      ∀ taskId, (c'.projectFor taskId).1 = (c.projectFor taskId).1

theorem Database.Alike.seenAlike {db db' : Database} (h : db.Alike db') : SeenAlike db db' := by
  intro calls failure n
  have start : Connection.Alike ⟨db,failure,n⟩ ⟨db',failure,n⟩ := ⟨h, rfl, rfl⟩
  have later := start.afterCalls calls
  refine ⟨?_, ?_, ?_⟩
  · intro id
    exact (Connection.loadProject_blind id _ _ later).1
  · exact (Connection.loadLastActiveProject_blind _ _ later).1
  · intro taskId
    exact (Connection.projectFor_blind taskId _ _ later).1

/-- A save of a project that fails has no effect, exactly if not its second statement is the one
that fails, or the project is stored already. -/
theorem failed_save_unseen (p : Project) (c : Connection) :
    ((∃ e, (c.saveProject p).1 = .error e) → SeenAlike c.database (c.saveProject p).2.database) ↔
      ¬ (c.failure c.statements = none ∧ c.failure (c.statements + 1) ≠ none ∧
        c.database.project p.id.asStr ≠ .ok (some p)) := by
  constructor
  · rintro unseen ⟨first, second, new⟩
    obtain ⟨message, fails⟩ := Option.ne_none_iff_exists'.mp second
    have failed : (c.saveProject p).1 = .error (toStorageErr message) := by
      simp [Connection.saveProject, Connection.execute, Database.upsertProject, first, fails]
    have left : (c.saveProject p).2.database = c.database.putProject p := by
      simp [Connection.saveProject, Connection.execute, Database.upsertProject,
        Database.putProject, first, fails]
    have seen := (unseen ⟨_, failed⟩ [] (fun _ => none) 0).1 p.id.asStr
    have read (db : Database) : ((⟨db,fun _ => none,0⟩ : Connection).loadProject p.id.asStr).1 =
        db.project p.id.asStr := Connection.loadProject_sound _ fun _ _ _ => rfl
    rw [left] at seen
    apply new
    have kept := (read _).symm.trans (seen.symm.trans (read _))
    rw [kept, Database.project_putProject_self]
  · rintro safe ⟨e, failed⟩
    apply Database.Alike.seenAlike
    cases first : c.failure c.statements with
    | some message =>
      have same : (c.saveProject p).2.database = c.database := by
        simp [Connection.saveProject, Connection.execute, first]
      rw [same]
      exact .refl _
    | none =>
      cases second : c.failure (c.statements + 1) with
      | none => simp [Connection.saveProject, Connection.execute, Database.upsertProject,
          Database.upsertMetadata, first, second] at failed
      | some message =>
        have left : (c.saveProject p).2.database = c.database.putProject p := by
          simp [Connection.saveProject, Connection.execute, Database.upsertProject,
            Database.putProject, first, second]
        rw [left]
        apply Database.Alike.of_known
        by_cases known : c.database.project p.id.asStr = .ok (some p)
        · exact known
        · exact absurd ⟨first, by simp [second], known⟩ safe

/-- The row of a project whose pointer could not be written is there, and a task is saved under
it. -/
theorem half_saved_project_seen :
    (unpointedStore.saveProject plainProject).1 = .error (.storage "disk I/O error") ∧
      ¬ SeenAlike unpointedStore.database (unpointedStore.saveProject plainProject).2.database ∧
      ((unpointedStore.saveProject plainProject).2.projectFor "t").1 = .ok "p" ∧
      ((unpointedStore.projectFor "t").1 =
        .error (.storage "Cannot save task without an associated project")) := by
  refine ⟨by decide +kernel, ?_, by decide +kernel, by decide +kernel⟩
  intro same
  have seen := (same [] (fun _ => none) 0).1 "p"
  revert seen
  decide +kernel

end Kesharon.Daemon

import Kesharon.Daemon.ProjectStorage
import Kesharon.Framework.Log
import Kesharon.Framework.Machine

namespace Kesharon.Daemon

open Framework Framework.Sql Framework.Log Domain Application

/-- The saves of a repository. -/
inductive StoreCall where
  | saveProject (project : Project)
  | saveTask (task : Task)
  | saveCheckpoint (taskId : String) (checkpoint : TaskCheckpoint)

/-- A writing statement that has been applied. -/
inductive Write where
  | project (project : Project)
  | pointer (projectId : String)
  | task (task : Task)
  | checkpoint (taskId : String) (checkpoint : TaskCheckpoint)

namespace Write

def projectId : Write → Option String
  | .project p => some p.id.asStr
  | _ => none

def taskId : Write → Option String
  | .task t => some t.id.asStr
  | _ => none

def pointedId : Write → Option String
  | .pointer id => some id
  | _ => none

def projectVersion (id : String) : Write → Option Project
  | .project p => if p.id.asStr = id then some p else none
  | _ => none

def taskVersion (id : String) : Write → Option Task
  | .task t => if t.id.asStr = id then some t else none
  | _ => none

end Write

/-- The history of a store, the last write first. -/
abbrev History := List Write

namespace History

/-- The last version written of a project. -/
def lastProject (id : String) (log : History) : Option Project :=
  log.findSome? (Write.projectVersion id)

def lastTask (id : String) (log : History) : Option Task := log.findSome? (Write.taskVersion id)

/-- The project last made active, else the newest. -/
def currentProject (log : History) : Option String :=
  (log.findSome? Write.pointedId).or (order Write.projectId log).getLast?

/-- The project that was current when a task was first written. -/
def attachedTo (id : String) : History → Option String
  | [] => none
  | w :: before =>
    (attachedTo id before).or (if w.taskId = some id then currentProject before else none)

/-- The task is attached to the project and was last written as an active one. -/
def activeIn (projectId : String) (log : History) (id : String) : Bool :=
  log.attachedTo id = some projectId ∧ (log.lastTask id).any Task.isActive

/-- Of these tasks, the one that was first written last. -/
def activeTask (projectId : String) (log : History) : Option Task :=
  ((order Write.taskId log).reverse.find? (log.activeIn projectId)).bind fun id => log.lastTask id

end History

namespace StoreCall

def run : StoreCall → Connection → Except ApplicationError Unit × Connection
  | .saveProject p, c => c.saveProject p
  | .saveTask t, c => c.saveTask t
  | .saveCheckpoint taskId checkpoint, c => c.saveCheckpoint taskId checkpoint

/-- The writing statements of a call that are applied, the last one first. -/
def writes (c : Connection) : StoreCall → History
  | .saveProject p =>
    match (c.saveProject p).1, c.failure c.statements with
    | .ok (), _ => [.pointer p.id.asStr,.project p]
    | .error _, none => [.project p]
    | .error _, some _ => []
  | .saveTask t =>
    match (c.saveTask t).1 with
    | .ok () => [.task t]
    | .error _ => []
  | .saveCheckpoint taskId checkpoint =>
    match (c.saveCheckpoint taskId checkpoint).1 with
    | .ok () => [.checkpoint taskId checkpoint]
    | .error _ => []

/-- The lookups of a call, if it makes any, do not fail. -/
def ReadsSucceed (c : Connection) (call : StoreCall) (_ : Connection) : Prop :=
  match call with
  | .saveTask t => c.Sound (c.projectFor t.id.asStr).2
  | _ => True

end StoreCall

structure StoreOutput where
  result : Except ApplicationError Unit
  writes : History

/-- A store used by one call after the other. -/
def store : Machine Connection StoreCall StoreOutput where
  step c call := some ((call.run c).2, ⟨(call.run c).1,call.writes c⟩)

theorem store_step (c : Connection) (call : StoreCall) :
    store.step c call = some ((call.run c).2, ⟨(call.run c).1,call.writes c⟩) := rfl

def written (tr : List (StoreCall × StoreOutput)) : History :=
  tr.foldl (fun log p => p.2.writes ++ log) []

theorem written_snoc (tr : List (StoreCall × StoreOutput)) (p : StoreCall × StoreOutput) :
    written (tr ++ [p]) = p.2.writes ++ written tr := by
  simp [written, List.foldl_append]

def checkpointParams (checkpoint : TaskCheckpoint) (taskId : String) (ts : Int64) : CheckpointRow where
  id := .text checkpoint.id.text
  taskId := .text taskId
  description := .text checkpoint.description.text
  gitRef := .text checkpoint.gitRef.text
  timestampMillis := .integer ts

/-- The tables hold what the history says. -/
structure Reflects (log : History) (db : Database) : Prop where
  projectKeys : db.projects.map ProjectRow.id = (order Write.projectId log).map .text
  projects : ∀ id, db.findProject id = (log.lastProject id).map projectParams
  pointer : db.sessionMetadata = (log.findSome? Write.pointedId).toList.map fun id =>
    ⟨.text "last_active_project_id",.text id⟩
  pointed : ∀ id, log.findSome? Write.pointedId = some id → id ∈ order Write.projectId log
  taskKeys : db.tasks.map TaskRow.id = (order Write.taskId log).map .text
  tasks : ∀ id, db.findTask id = none ∧ log.lastTask id = none ∧ log.attachedTo id = none ∨
    ∃ t p row, log.lastTask id = some t ∧ log.attachedTo id = some p ∧
      taskParams t p = .ok row ∧ db.findTask id = some row
  attached : ∀ id p, log.attachedTo id = some p → p ∈ order Write.projectId log
  checkpoints : ∀ row ∈ db.taskCheckpoints, ∃ checkpoint taskId ts,
    taskId ∈ order Write.taskId log ∧
      i64FromU64 (TaskCheckpoint.timestampMillis checkpoint) = .ok ts ∧
      row = checkpointParams checkpoint taskId ts

namespace History

variable {w : Write} {log : History} {id : String}

theorem attachedTo_other (h : w.taskId ≠ some id) :
    attachedTo id (w :: log) = attachedTo id log := by
  simp [attachedTo, h]

theorem attachedTo_known {p : String} (h : attachedTo id log = some p) :
    attachedTo id (w :: log) = some p := by
  simp [attachedTo, h]

theorem attachedTo_first (h : attachedTo id log = none) (here : w.taskId = some id) :
    attachedTo id (w :: log) = currentProject log := by
  simp [attachedTo, h, here]

end History

theorem text_injective : Function.Injective Value.text := by
  intro s t h
  exact Value.text.inj h

theorem order_mono {f : Write → Option String} {w : Write} {log : History} {id : String}
    (h : id ∈ order f log) : id ∈ order f (w :: log) := by
  obtain ⟨v, among, eq⟩ := mem_order.mp h
  exact mem_order.mpr ⟨v, List.mem_cons_of_mem _ among, eq⟩

namespace Reflects

variable {log : History} {db : Database}

theorem empty : Reflects [] Database.empty where
  projectKeys := rfl
  projects _ := rfl
  pointer := rfl
  pointed id found := by cases found
  taskKeys := rfl
  tasks _ := .inl ⟨rfl, rfl, rfl⟩
  attached id p found := by cases found
  checkpoints row among := by cases among

theorem project (h : Reflects log db) (p : Project) :
    Reflects (.project p :: log) (db.putProject p) where
  projectKeys := map_key_upsert_order text_injective (fun _ => rfl) rfl rfl h.projectKeys
  projects id := by
    by_cases same : p.id.asStr = id
    · subst same
      rw [Database.findProject_putProject]
      simp [History.lastProject, Write.projectVersion]
    · rw [Database.findProject_putProject_ne (Ne.symm same), h.projects]
      simp [History.lastProject, Write.projectVersion, same]
  pointer := h.pointer
  pointed id found := order_mono (h.pointed id found)
  taskKeys := h.taskKeys
  tasks id := by
    rw [History.attachedTo_other (w := .project p) (by simp [Write.taskId])]
    exact h.tasks id
  attached id q found := by
    rw [History.attachedTo_other (w := .project p) (by simp [Write.taskId])] at found
    exact order_mono (h.attached id q found)
  checkpoints := h.checkpoints

theorem point (h : Reflects log db) {id : String} (known : id ∈ order Write.projectId log) :
    Reflects (.pointer id :: log) (db.point id) where
  projectKeys := h.projectKeys
  projects := h.projects
  pointer := by
    change upsert MetadataRow.key (fun _ new => new) _ db.sessionMetadata = _
    rw [h.pointer]
    cases log.findSome? Write.pointedId with
    | none => rfl
    | some old => simp [upsert, List.findSome?_cons, Write.pointedId]
  pointed other found := by
    obtain rfl : id = other := Option.some.inj found
    exact order_mono known
  taskKeys := h.taskKeys
  tasks other := by
    rw [History.attachedTo_other (w := .pointer id) (by simp [Write.taskId])]
    exact h.tasks other
  attached other q found := by
    rw [History.attachedTo_other (w := .pointer id) (by simp [Write.taskId])] at found
    exact order_mono (h.attached other q found)
  checkpoints := h.checkpoints

/-- The project under which a task is going to be saved. -/
theorem projectFor (h : Reflects log db) {id p : String} (found : db.projectFor id = .ok p) :
    log.attachedTo id = some p ∨ log.attachedTo id = none ∧ log.currentProject = some p := by
  unfold Database.projectFor Database.projectIdOfTask at found
  rcases h.tasks id with ⟨absent, _, unattached⟩ | ⟨t, q, row, _, attached, params, here⟩
  · refine .inr ⟨unattached, ?_⟩
    rw [absent] at found
    unfold History.currentProject
    cases pointed : log.findSome? Write.pointedId with
    | some last =>
      have pointer : db.lastActiveProjectId = .ok last := by
        unfold Database.lastActiveProjectId
        rw [h.pointer, pointed]
        rfl
      simp only [firstRow, pointer, Except.ok.injEq] at found
      rw [found]
      rfl
    | none =>
      have pointer : db.lastActiveProjectId = .error "Query returned no rows" := by
        unfold Database.lastActiveProjectId
        rw [h.pointer, pointed]
        rfl
      simp only [firstRow, pointer, Database.newestProjectId] at found
      have keys := congrArg List.getLast? h.projectKeys
      rw [List.getLast?_map, List.getLast?_map] at keys
      cases newest : db.projects.getLast? with
      | none => simp [newest, Except.mapError] at found
      | some row =>
        rw [newest] at keys found
        obtain ⟨last, ends, named⟩ := Option.map_eq_some_iff.mp keys.symm
        simp only [← named, Value.getText_text, Except.mapError, Except.ok.injEq] at found
        rw [ends, found]
        rfl
  · left
    obtain ⟨_, _, _, _, _, _, _, _, _, _, rfl⟩ := taskParams_ok params
    rw [here] at found
    rw [attached]
    exact congrArg some (Except.ok.inj found)

theorem current_known (h : Reflects log db) {p : String} (current : log.currentProject = some p) :
    p ∈ order Write.projectId log := by
  unfold History.currentProject at current
  rcases Option.or_eq_some_iff.mp current with pointed | ⟨_, newest⟩
  · exact h.pointed p pointed
  · exact List.mem_of_getLast? newest

theorem task (h : Reflects log db) {t : Task} {p : String} {row : TaskRow}
    (params : taskParams t p = .ok row) (chosen : db.projectFor t.id.asStr = .ok p) :
    Reflects (.task t :: log)
      { db with tasks := upsert TaskRow.id Database.mergeTask row db.tasks } where
  projectKeys := h.projectKeys
  projects := h.projects
  pointer := h.pointer
  pointed id found := h.pointed id found
  taskKeys := map_key_upsert_order text_injective (fun _ => rfl) rfl (taskParams_id params) h.taskKeys
  tasks id := by
    by_cases same : t.id.asStr = id
    · subst same
      right
      refine ⟨t, p, row, by simp [History.lastTask, Write.taskVersion], ?_, params, ?_⟩
      · rcases h.projectFor chosen with known | ⟨first, current⟩
        · exact History.attachedTo_known known
        · exact (History.attachedTo_first first rfl).trans current
      · have found := find?_upsert_self row (fun old => (rfl :
          TaskRow.id (Database.mergeTask old row) = row.id)) db.tasks
        rw [taskParams_id params] at found
        unfold Database.findTask
        rw [found]
        rcases h.tasks t.id.asStr with ⟨absent, _, _⟩ | ⟨t', q, old, _, attached, params', here⟩
        · unfold Database.findTask at absent
          rw [absent]
          rfl
        · have kept : q = p := by
            rcases h.projectFor chosen with known | ⟨first, _⟩
            · exact Option.some.inj (attached.symm.trans known)
            · rw [attached] at first
              cases first
          unfold Database.findTask at here
          rw [here]
          obtain ⟨_, _, _, _, _, _, _, _, _, _, rfl⟩ := taskParams_ok params
          obtain ⟨_, _, _, _, _, _, _, _, _, _, rfl⟩ := taskParams_ok params'
          rw [kept]
          rfl
    · have other : Write.taskId (.task t) ≠ some id := by
        intro eq
        exact same (Option.some.inj eq)
      have found : ({ db with
          tasks := upsert TaskRow.id Database.mergeTask row db.tasks } : Database).findTask id =
          db.findTask id := by
        apply find?_upsert_ne (fun _ => rfl)
        rw [taskParams_id params]
        intro eq
        exact same (Value.text.inj eq).symm
      have version : History.lastTask id (.task t :: log) = log.lastTask id := by
        simp [History.lastTask, Write.taskVersion, same]
      rw [found, version, History.attachedTo_other other]
      exact h.tasks id
  attached id q found := by
    have mono {q : String} (among : q ∈ order Write.projectId log) :
        q ∈ order Write.projectId (.task t :: log) := order_mono among
    rcases h.tasks id with ⟨_, _, unattached⟩ | ⟨_, q', _, _, attached, _, _⟩
    · by_cases same : Write.taskId (.task t) = some id
      · rw [History.attachedTo_first unattached same] at found
        exact mono (h.current_known found)
      · rw [History.attachedTo_other same, unattached] at found
        cases found
    · rw [History.attachedTo_known attached] at found
      exact mono (h.attached id q (attached.trans found))
  checkpoints row among := by
    obtain ⟨checkpoint, taskId, ts, known, fits, eq⟩ := h.checkpoints row among
    exact ⟨checkpoint, taskId, ts, order_mono known, fits, eq⟩

theorem checkpoint (h : Reflects log db) {db' : Database} {c : TaskCheckpoint} {taskId : String}
    {ts : Int64} (fits : i64FromU64 c.timestampMillis = .ok ts)
    (change : db.upsertCheckpoint (checkpointParams c taskId ts) = .ok db') :
    Reflects (.checkpoint taskId c :: log) db' := by
  unfold Database.upsertCheckpoint at change
  split_ifs at change with allowed
  obtain rfl := Except.ok.inj change
  refine ⟨h.projectKeys, h.projects, h.pointer, h.pointed, h.taskKeys, fun id => ?_, fun id q => ?_,
    fun row among => ?_⟩
  · rw [History.attachedTo_other (w := .checkpoint taskId c) (by simp [Write.taskId])]
    exact h.tasks id
  · rw [History.attachedTo_other (w := .checkpoint taskId c) (by simp [Write.taskId])]
    exact h.attached id q
  · rcases mem_upsert among with old | ⟨rfl, absent⟩ | ⟨old, before, sameKey, rfl⟩
    · obtain ⟨checkpoint, taskId', ts', known, fits', eq⟩ := h.checkpoints row old
      exact ⟨checkpoint, taskId', ts', known, fits', eq⟩
    · refine ⟨c, taskId, ts, ?_, fits, rfl⟩
      have existing : db.tasks.any (fun t => t.id = .text taskId) = true := by
        rcases Bool.or_eq_true_iff.mp allowed with conflict | existing
        · obtain ⟨r, among, eq⟩ := List.any_eq_true.mp conflict
          exact absurd (List.mem_map.mpr ⟨r, among, of_decide_eq_true eq⟩) absent
        · exact existing
      obtain ⟨r, among, eq⟩ := List.any_eq_true.mp existing
      have key : r.id ∈ db.tasks.map TaskRow.id := List.mem_map.mpr ⟨r, among, rfl⟩
      rw [h.taskKeys, of_decide_eq_true eq, List.mem_map_of_injective text_injective] at key
      exact key
    · obtain ⟨checkpoint, taskId', ts', known, _, rfl⟩ := h.checkpoints old before
      exact ⟨c, taskId', ts, known, fits, rfl⟩

end Reflects

section Steps

variable {c c' : Connection} {call : StoreCall} {o : StoreOutput} {log : History}

theorem saveProject_writes (p : Project) (c : Connection) :
    (StoreCall.writes c (.saveProject p) = [] ∧ (c.saveProject p).2.database = c.database) ∨
    (StoreCall.writes c (.saveProject p) = [.project p] ∧
      (c.saveProject p).2.database = c.database.putProject p) ∨
    (StoreCall.writes c (.saveProject p) = [.pointer p.id.asStr,.project p] ∧
      (c.saveProject p).2.database = (c.database.putProject p).point p.id.asStr) := by
  cases first : c.failure c.statements with
  | some message =>
    left
    simp [StoreCall.writes, Connection.saveProject, Connection.execute, first]
  | none =>
    right
    cases second : c.failure (c.statements + 1) with
    | some message =>
      left
      simp [StoreCall.writes, Connection.saveProject, Connection.execute, Database.upsertProject,
        Database.putProject, first, second]
    | none =>
      right
      simp [StoreCall.writes, Connection.saveProject, Connection.execute, Database.upsertProject,
        Database.upsertMetadata, Database.putProject, Database.point, first, second]

/-- A checkpoint's save has no effect, or upserts its parameters. -/
theorem Connection.saveCheckpoint_cases (taskId : String) (k : TaskCheckpoint)
    (c : Connection) :
    (∃ e, (c.saveCheckpoint taskId k).1 = .error e ∧
        Connection.Same c (c.saveCheckpoint taskId k).2) ∨
      ∃ ts, i64FromU64 k.timestampMillis = .ok ts ∧ (c.saveCheckpoint taskId k).1 = .ok () ∧
        c.database.upsertCheckpoint (checkpointParams k taskId ts) =
          .ok (c.saveCheckpoint taskId k).2.database := by
  unfold Connection.saveCheckpoint
  cases fits : i64FromU64 k.timestampMillis with
  | error e => exact .inl ⟨e, rfl, rfl, rfl⟩
  | ok ts =>
    dsimp only
    cases he : c.execute (Database.upsertCheckpoint (checkpointParams k taskId ts)) with
    | mk r d =>
      simp only [checkpointParams] at he
      rw [he]
      cases r with
      | error e => exact .inl ⟨toStorageErr e, rfl, Connection.execute_error he⟩
      | ok u => exact .inr ⟨ts, rfl, rfl, (Connection.execute_ok he).1⟩

theorem step_reflects (h : Reflects log c.database) (ok : call.ReadsSucceed c c')
    (step : store.step c call = some (c', o)) : Reflects (o.writes ++ log) c'.database := by
  obtain ⟨rfl, rfl⟩ := Prod.mk.inj (Option.some.inj step)
  cases call with
  | saveProject p =>
    change Reflects (StoreCall.writes c (.saveProject p) ++ log) (c.saveProject p).2.database
    rcases saveProject_writes p c with ⟨writes, db⟩ | ⟨writes, db⟩ | ⟨writes, db⟩
    · rw [writes, db]
      exact h
    · rw [writes, db]
      exact h.project p
    · rw [writes, db]
      have known : p.id.asStr ∈ order Write.projectId (.project p :: log) :=
        mem_order.mpr ⟨_, List.mem_cons_self, rfl⟩
      exact (h.project p).point known
  | saveTask t =>
    have sound : c.Sound (c.projectFor t.id.asStr).2 := ok
    have chosen := c.projectFor_sound t.id.asStr sound
    change Reflects (StoreCall.writes c (.saveTask t) ++ log) (c.saveTask t).2.database
    simp only [StoreCall.writes]
    rcases c.saveTask_cases t with ⟨e, failed, same⟩ | ⟨p, row, params, saved, db, _, project⟩
    · rw [failed, same.database]
      exact h
    · rw [saved, db]
      rw [project] at chosen
      exact h.task params chosen.symm
  | saveCheckpoint taskId checkpoint =>
    change Reflects (StoreCall.writes c (.saveCheckpoint taskId checkpoint) ++ log)
      (c.saveCheckpoint taskId checkpoint).2.database
    simp only [StoreCall.writes]
    rcases c.saveCheckpoint_cases taskId checkpoint with
      ⟨e, failed, same⟩ | ⟨ts, fits, saved, change⟩
    · rw [failed, same.database]
      exact h
    · rw [saved]
      exact h.checkpoint fits change

theorem run_reflects {failure : Nat → Option String} {tr : List (StoreCall × StoreOutput)}
    (run : store.Run (fun c call c' => call.ReadsSucceed c c') ⟨Database.empty,failure,0⟩ tr c) :
    Reflects (written tr) c.database := by
  apply run.history (P := fun tr c => Reflects (written tr) c.database)
  · exact Reflects.empty
  · intro tr c call c' o before ok step
    rw [written_snoc]
    exact step_reflects before ok step

end Steps

/-- Every reference is to an existing row, and every row can be read. -/
structure WellFormed (db : Database) : Prop where
  pointer : ∀ row ∈ db.sessionMetadata, row.key = .text "last_active_project_id" →
    ∃ p ∈ db.projects, p.id = row.value
  taskProject : ∀ t ∈ db.tasks, ∃ p ∈ db.projects, p.id = t.projectId
  checkpointTask : ∀ k ∈ db.taskCheckpoints, ∃ t ∈ db.tasks, t.id = k.taskId
  projectRow : ∀ row ∈ db.projects, ∃ p, parseProjectRow row = .ok p
  taskRow : ∀ row ∈ db.tasks, ∃ t, parseTaskRow row = .ok t
  checkpointRow : ∀ row ∈ db.taskCheckpoints, ∃ k, parseCheckpointRow row = .ok k

theorem parseCheckpointRow_params {c : TaskCheckpoint} {ts : Int64} (taskId : String)
    (fits : i64FromU64 c.timestampMillis = .ok ts) :
    parseCheckpointRow (checkpointParams c taskId ts) = .ok c := by
  have id := nonBlank_text TaskError.emptyIdentifier c.id
  have description := nonBlank_text TaskError.emptyIdentifier c.description
  have gitRef := nonBlank_text TaskError.emptyIdentifier c.gitRef
  simp only [parseCheckpointRow, checkpointParams, Value.getText_text, Value.getInteger_integer,
    Except.mapError, bind, Except.bind, u64FromI64_of_i64FromU64 fits, TaskCheckpoint.new, id,
    description, gitRef, pure, Except.pure]

namespace Reflects

variable {log : History} {db : Database}

theorem projects_nodup (h : Reflects log db) : (db.projects.map ProjectRow.id).Nodup := by
  rw [h.projectKeys]
  exact (order_nodup log).map text_injective

theorem tasks_nodup (h : Reflects log db) : (db.tasks.map TaskRow.id).Nodup := by
  rw [h.taskKeys]
  exact (order_nodup log).map text_injective

theorem exists_project (h : Reflects log db) {id : String} (known : id ∈ order Write.projectId log) :
    ∃ p ∈ db.projects, p.id = .text id := by
  have key : Value.text id ∈ db.projects.map ProjectRow.id := by
    rw [h.projectKeys]
    exact List.mem_map.mpr ⟨id, known, rfl⟩
  exact List.mem_map.mp key

theorem project_row (h : Reflects log db) {row : ProjectRow} (among : row ∈ db.projects) :
    ∃ p, row = projectParams p := by
  have key : row.id ∈ db.projects.map ProjectRow.id := List.mem_map.mpr ⟨row, among, rfl⟩
  rw [h.projectKeys] at key
  obtain ⟨id, _, named⟩ := List.mem_map.mp key
  have found := find?_of_mem h.projects_nodup among
  rw [← named] at found
  obtain ⟨p, _, eq⟩ := Option.map_eq_some_iff.mp ((h.projects id).symm.trans found)
  exact ⟨p, eq.symm⟩

theorem task_row (h : Reflects log db) {row : TaskRow} (among : row ∈ db.tasks) :
    ∃ id t p, log.lastTask id = some t ∧ log.attachedTo id = some p ∧ taskParams t p = .ok row := by
  have key : row.id ∈ db.tasks.map TaskRow.id := List.mem_map.mpr ⟨row, among, rfl⟩
  rw [h.taskKeys] at key
  obtain ⟨id, _, named⟩ := List.mem_map.mp key
  have found := find?_of_mem h.tasks_nodup among
  rw [← named] at found
  have found : db.findTask id = some row := found
  rcases h.tasks id with ⟨absent, _, _⟩ | ⟨t, p, row', version, attached, params, here⟩
  · rw [absent] at found
    cases found
  · obtain rfl := Option.some.inj (here.symm.trans found)
    exact ⟨id, t, p, version, attached, params⟩

theorem i64FromBool_eq_one (b : Bool) : i64FromBool b = 1 ↔ b = true := by
  cases b <;> decide

theorem parse_task_row {t : Task} {p : String} {row : TaskRow} (params : taskParams t p = .ok row) :
    parseTaskRow row = .ok (reloaded t) :=
  parseTaskRow_of_params params row.projectId

theorem wellFormed (h : Reflects log db) : WellFormed db where
  pointer row among named := by
    rw [h.pointer] at among
    obtain ⟨id, last, rfl⟩ := List.mem_map.mp among
    exact h.exists_project (h.pointed id (Option.mem_toList.mp last))
  taskProject row among := by
    obtain ⟨id, t, p, _, attached, params⟩ := h.task_row among
    obtain ⟨_, _, _, _, _, _, _, _, _, _, rfl⟩ := taskParams_ok params
    exact h.exists_project (h.attached id p attached)
  checkpointTask row among := by
    obtain ⟨checkpoint, taskId, ts, known, _, rfl⟩ := h.checkpoints row among
    have key : Value.text taskId ∈ db.tasks.map TaskRow.id := by
      rw [h.taskKeys]
      exact List.mem_map.mpr ⟨taskId, known, rfl⟩
    exact List.mem_map.mp key
  projectRow row among := by
    obtain ⟨p, rfl⟩ := h.project_row among
    exact ⟨p, parseProjectRow_params p⟩
  taskRow row among := by
    obtain ⟨_, t, _, _, _, params⟩ := h.task_row among
    exact ⟨reloaded t, parse_task_row params⟩
  checkpointRow row among := by
    obtain ⟨checkpoint, taskId, ts, _, fits, rfl⟩ := h.checkpoints row among
    exact ⟨checkpoint, parseCheckpointRow_params taskId fits⟩

theorem project_eq (h : Reflects log db) (id : String) :
    db.project id = .ok (log.lastProject id) := by
  unfold Database.project
  rw [h.projects]
  cases log.lastProject id with
  | none => rfl
  | some p =>
    change (parseProjectRow (projectParams p)).map some = _
    rw [parseProjectRow_params]
    rfl

theorem task_eq (h : Reflects log db) (id : String) :
    db.task id = .ok ((log.lastTask id).map reloaded) := by
  unfold Database.task
  rcases h.tasks id with ⟨absent, never, _⟩ | ⟨t, p, row, version, _, params, here⟩
  · rw [absent, never]
    rfl
  · rw [here, version]
    dsimp only
    rw [parse_task_row params]
    rfl

/-- The active rows of a project are those of the tasks active in it. -/
theorem active_row (h : Reflects log db) (projectId id : String) :
    ((db.findTask id).any fun r => r.projectId = .text projectId ∧ r.isActive = .integer 1) =
      log.activeIn projectId id := by
  unfold History.activeIn
  rcases h.tasks id with ⟨absent, never, _⟩ | ⟨t, p, row, version, attached, params, here⟩
  · rw [absent, never]
    simp
  · rw [here, version, attached]
    obtain ⟨_, _, _, _, _, _, _, _, _, _, rfl⟩ := taskParams_ok params
    simp [i64FromBool_eq_one]

theorem activeTask_eq (h : Reflects log db) (projectId : String) :
    db.activeTask projectId = .ok ((log.activeTask projectId).map reloaded) := by
  have table : db.tasks.reverse =
      (order Write.taskId log).reverse.filterMap fun id => db.findTask id := by
    have rows := rows_eq_filterMap h.tasks_nodup
    rw [h.taskKeys, List.filterMap_map] at rows
    rw [List.filterMap_reverse]
    exact congrArg List.reverse rows
  have select : (db.tasks.reverse.find? fun r =>
      r.projectId = .text projectId ∧ r.isActive = .integer 1) =
      ((order Write.taskId log).reverse.find? (log.activeIn projectId)).bind
        fun id => db.findTask id := by
    rw [table, List.find?_filterMap]
    simp only [h.active_row projectId]
  unfold Database.activeTask Database.activeTaskId History.activeTask
  rw [select]
  cases chosen : (order Write.taskId log).reverse.find? (log.activeIn projectId) with
  | none => rfl
  | some id =>
    rcases h.tasks id with ⟨_, never, _⟩ | ⟨t, p, row, version, _, params, here⟩
    · have active := List.find?_some chosen
      simp [History.activeIn, never] at active
    · simp only [Option.bind_some, here, firstRow, taskParams_id params, Value.getText_text]
      have named : t.id.asStr = id := by
        have kept := List.exists_of_findSome?_eq_some version
        obtain ⟨w, _, eq⟩ := kept
        cases w with
        | task t' =>
          simp only [Write.taskVersion] at eq
          split_ifs at eq with same
          rw [← Option.some.inj eq]
          exact same
        | _ => cases eq
      rw [named]
      exact h.task_eq id

/-- A project has no active task exactly when none is attached to it. -/
theorem activeTask_none (h : Reflects log db) (projectId : String) :
    log.activeTask projectId = none ↔ ¬ ∃ id t, log.lastTask id = some t ∧ t.isActive = true ∧
      log.attachedTo id = some projectId := by
  unfold History.activeTask
  constructor
  · rintro nobody ⟨id, t, version, active, attached⟩
    have known : id ∈ (order Write.taskId log).reverse := by
      rcases h.tasks id with ⟨_, never, _⟩ | ⟨_, _, row, _, _, params, here⟩
      · rw [never] at version
        cases version
      · have key : row.id ∈ db.tasks.map TaskRow.id :=
          List.mem_map.mpr ⟨row, List.mem_of_find?_eq_some here, rfl⟩
        have found : (db.tasks.find? fun r => r.id = .text id) = some row := here
        have same : row.id = .text id := by simpa using List.find?_some found
        rw [h.taskKeys, same, List.mem_map_of_injective text_injective] at key
        exact List.mem_reverse.mpr key
    have chosen : log.activeIn projectId id = true := by
      simp [History.activeIn, version, active, attached]
    cases found : (order Write.taskId log).reverse.find? (log.activeIn projectId) with
    | none => exact List.find?_eq_none.mp found id known chosen
    | some id' =>
      rw [found] at nobody
      have active' := List.find?_some found
      simp only [Option.bind_some] at nobody
      simp [History.activeIn, nobody] at active'
  · intro nobody
    cases found : (order Write.taskId log).reverse.find? (log.activeIn projectId) with
    | none => rfl
    | some id =>
      have active := List.find?_some found
      simp only [History.activeIn, Bool.decide_and, Bool.and_eq_true, decide_eq_true_eq] at active
      cases version : log.lastTask id with
      | none => simp [version] at active
      | some t =>
        rw [version] at active
        exact absurd ⟨id, t, version, active.2, active.1⟩ nobody

end Reflects

theorem mapM_ok {α β ε : Type} {f : α → Except ε β} {xs : List α}
    (h : ∀ x ∈ xs, ∃ y, f x = .ok y) : ∃ ys, xs.mapM f = .ok ys := by
  induction xs with
  | nil => exact ⟨[], rfl⟩
  | cons x xs ih =>
    obtain ⟨y, first⟩ := h x List.mem_cons_self
    obtain ⟨ys, rest⟩ := ih fun x' among => h x' (List.mem_cons_of_mem _ among)
    exact ⟨y :: ys, by rw [List.mapM_cons, first, rest]; rfl⟩

theorem Connection.listCheckpoints_ok {c : Connection} {taskId : String}
    (h : WellFormed c.database) (sound : c.Sound (c.listCheckpoints taskId).2) :
    ∃ checkpoints, (c.listCheckpoints taskId).1 = .ok checkpoints := by
  have read := query_sound (c := c) fun db => .ok (db.checkpointsOf taskId)
  unfold listCheckpoints at sound ⊢
  cases hq : c.query fun db => .ok (db.checkpointsOf taskId) with
  | mk r d =>
    rw [hq] at read sound
    have read := read (by cases r <;> exact sound)
    obtain rfl : r = .ok (c.database.checkpointsOf taskId) := read
    apply mapM_ok
    intro row among
    apply h.checkpointRow
    exact (List.mem_filter.mp ((List.mergeSort_perm _ _).mem_iff.mp among)).1

section Runs

variable {c : Connection} {tr xs ys : List (StoreCall × StoreOutput)}

theorem written_append (xs ys : List (StoreCall × StoreOutput)) :
    ∃ later, written (xs ++ ys) = later ++ written xs := by
  induction ys using List.reverseRecOn with
  | nil => exact ⟨[], by simp⟩
  | append_singleton ys p ih =>
    obtain ⟨later, eq⟩ := ih
    exact ⟨p.2.writes ++ later, by rw [← List.append_assoc, written_snoc, eq, List.append_assoc]⟩

theorem attachedTo_append {log : History} {id p : String} (later : History)
    (h : log.attachedTo id = some p) : History.attachedTo id (later ++ log) = some p := by
  induction later with
  | nil => exact h
  | cons w later ih => exact History.attachedTo_known ih

theorem unattached {log : History} {id : String} (h : ∀ w ∈ log, w.taskId ≠ some id) :
    log.attachedTo id = none := by
  induction log with
  | nil => rfl
  | cons w log ih =>
    rw [History.attachedTo_other (h w List.mem_cons_self)]
    exact ih fun v among => h v (List.mem_cons_of_mem _ among)

/-- A task is written alone. -/
theorem writes_of_task {call : StoreCall} {t : Task} (h : .task t ∈ call.writes c) :
    call.writes c = [.task t] := by
  cases call with
  | saveProject p =>
    rcases saveProject_writes p c with ⟨writes, _⟩ | ⟨writes, _⟩ | ⟨writes, _⟩ <;>
      simp [writes] at h
  | saveTask t' =>
    unfold StoreCall.writes at h ⊢
    dsimp only at h ⊢
    split at h
    · simp only [List.mem_singleton, Write.task.injEq] at h
      rw [h]
    · simp at h
  | saveCheckpoint taskId checkpoint =>
    unfold StoreCall.writes at h
    dsimp only at h
    split at h <;> simp at h

/-- The project of a task is the one that was current when it was first saved. -/
theorem project_of_first_save {failure : Nat → Option String} {call : StoreCall} {o : StoreOutput}
    {t : Task} (run : store.Run (fun c call c' => call.ReadsSucceed c c')
      ⟨Database.empty,failure,0⟩ (xs ++ (call, o) :: ys) c)
    (writes : .task t ∈ o.writes) (first : ∀ t', .task t' ∈ written xs → t'.id ≠ t.id) :
    ∃ project row, (written xs).currentProject = some project ∧
      c.database.findTask t.id.asStr = some row ∧ row.projectId = .text project := by
  obtain ⟨d, d', before, ok, step, _⟩ := run.at_step
  obtain rfl : (⟨(call.run d).1,call.writes d⟩ : StoreOutput) = o :=
    (Prod.mk.inj (Option.some.inj step)).2
  have alone : call.writes d = [.task t] := writes_of_task writes
  have new : ∀ w ∈ written xs, w.taskId ≠ some t.id.asStr := by
    intro w among same
    cases w with
    | task t' =>
      apply first t' among
      have text : t'.id.asStr = t.id.asStr := Option.some.inj same
      exact TaskId.ext (NonBlank.ext text)
    | _ => cases same
  have fixed : History.attachedTo t.id.asStr (.task t :: written xs) =
      (written xs).currentProject := History.attachedTo_first (unattached new) rfl
  have saved := step_reflects (run_reflects before) ok step
  simp only [alone, List.singleton_append] at saved
  rcases saved.tasks t.id.asStr with ⟨_, never, _⟩ | ⟨_, project, _, _, attached, _, _⟩
  · simp [History.lastTask, Write.taskVersion] at never
  · have whole : ∃ later, written (xs ++ (call, ⟨(call.run d).1,call.writes d⟩) :: ys) =
        later ++ .task t :: written xs := by
      have cut : xs ++ (call, ⟨(call.run d).1,call.writes d⟩) :: ys =
          (xs ++ [(call, ⟨(call.run d).1,call.writes d⟩)]) ++ ys := by simp
      obtain ⟨later, eq⟩ := written_append (xs ++ [(call, ⟨(call.run d).1,call.writes d⟩)]) ys
      refine ⟨later, ?_⟩
      rw [cut, eq, written_snoc]
      simp only [alone, List.singleton_append]
    obtain ⟨later, eq⟩ := whole
    have final := run_reflects run
    have kept := attachedTo_append later attached
    rw [← eq] at kept
    rcases final.tasks t.id.asStr with ⟨_, _, gone⟩ | ⟨_, q, row, _, attached', params, here⟩
    · rw [gone] at kept
      cases kept
    · obtain rfl := Option.some.inj (kept.symm.trans attached')
      obtain ⟨_, _, _, _, _, _, _, _, _, _, rfl⟩ := taskParams_ok params
      exact ⟨project, _, fixed.symm.trans attached, here, rfl⟩

/-- What a store has gone through is what it holds. Starting from an empty database, after any
sequence of saves whose writing statements fail anywhere and whose lookups do not: all references
and rows are well formed; a reader whose statements do not fail loads the last version written of
a project or a task, never an error, and the active task that was first saved last, none exactly
if no task attached to the project was last saved as an active one; and a task stays in the project
that was current at its first save. -/
theorem store_well_formed {failure : Nat → Option String}
    (run : store.Run (fun c call c' => call.ReadsSucceed c c') ⟨Database.empty,failure,0⟩ tr c) :
    WellFormed c.database ∧
    (∀ reader : Connection, reader.database = c.database →
      (∀ id, reader.Sound (reader.loadProject id).2 →
        (reader.loadProject id).1 = .ok ((written tr).lastProject id)) ∧
      (∀ id, reader.Sound (reader.loadTask id).2 →
        (reader.loadTask id).1 = .ok (((written tr).lastTask id).map reloaded)) ∧
      (∀ id, reader.Sound (reader.listCheckpoints id).2 →
        ∃ checkpoints, (reader.listCheckpoints id).1 = .ok checkpoints) ∧
      ∀ projectId, reader.Sound (reader.loadActiveTask projectId).2 →
        (reader.loadActiveTask projectId).1 =
          .ok (((written tr).activeTask projectId).map reloaded) ∧
        ((reader.loadActiveTask projectId).1 = .ok none ↔
          ¬ ∃ id t, (written tr).lastTask id = some t ∧ t.isActive = true ∧
            (written tr).attachedTo id = some projectId)) ∧
    ∀ xs ys call o t, tr = xs ++ (call, o) :: ys → .task t ∈ o.writes →
      (∀ t', .task t' ∈ written xs → t'.id ≠ t.id) →
      ∃ project row, (written xs).currentProject = some project ∧
        c.database.findTask t.id.asStr = some row ∧ row.projectId = .text project := by
  have reflects := run_reflects run
  refine ⟨reflects.wellFormed, fun reader same => ⟨fun id sound => ?_, fun id sound => ?_,
    fun id sound => ?_, fun projectId sound => ?_⟩, ?_⟩
  · rw [reader.loadProject_sound id sound, same, reflects.project_eq]
  · rw [reader.loadTask_sound id sound, same, reflects.task_eq]
  · exact Connection.listCheckpoints_ok (by rw [same]; exact reflects.wellFormed) sound
  · rw [reader.loadActiveTask_sound projectId sound, same, reflects.activeTask_eq,
      ← reflects.activeTask_none]
    refine ⟨rfl, ?_⟩
    cases (written tr).activeTask projectId <;> simp
  · rintro xs ys call o t rfl writes first
    exact project_of_first_save run writes first

end Runs

/-- A fresh store whose second statement fails. -/
def unpointedStore : Connection :=
  ⟨Database.empty,fun i => if i = 1 then some "disk I/O error" else none,0⟩

theorem unpointedStore_sound {c c' : Connection} (same : c.failure = unpointedStore.failure)
    (later : 2 ≤ c.statements) : c.Sound c' := by
  intro i first _
  rw [same]
  exact if_neg (by omega)

/-- A project whose pointer could not be written is the newest, and a task is saved in it. -/
theorem store_well_formed_newest :
    ∃ tr c, store.Run (fun c call c' => call.ReadsSucceed c c') unpointedStore tr c ∧
      WellFormed c.database ∧ (c.loadActiveTask "p").1 = .ok (some draft) := by
  have first : store.Run (fun c call c' => call.ReadsSucceed c c') unpointedStore _ _ :=
    .one (a := StoreCall.saveProject plainProject) trivial (store_step _ _)
  have run := first.snoc (a := StoreCall.saveTask draft)
    (unpointedStore_sound rfl (by decide)) (store_step _ _)
  obtain ⟨wellFormed, reads, _⟩ := store_well_formed run
  obtain ⟨_, _, _, active⟩ := reads _ rfl
  have loaded := (active "p" (unpointedStore_sound rfl (by decide))).1
  exact ⟨_, _, run, wellFormed, loaded.trans (by decide +kernel)⟩

end Kesharon.Daemon

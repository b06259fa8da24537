import Kesharon.Application.OpenProject
import Kesharon.Framework.Sql

namespace Kesharon.Daemon

open Framework Framework.Sql Domain Application

structure ProjectRow where
  id : Value
  displayName : Value
  canonicalRoot : Value
  trusted : Value
  deriving DecidableEq

structure TaskRow where
  id : Value
  projectId : Value
  goal : Value
  state : Value
  executionMode : Value
  maxMemoryBytes : Value
  maxDiskWriteBytes : Value
  maxConcurrentTools : Value
  maxPromptTokens : Value
  maxCompletionTokens : Value
  maxCostMicros : Value
  isActive : Value
  deriving DecidableEq

structure CheckpointRow where
  id : Value
  taskId : Value
  description : Value
  gitRef : Value
  timestampMillis : Value
  deriving DecidableEq

structure MetadataRow where
  key : Value
  value : Value
  deriving DecidableEq

/-- The tables, each as the list of its rows in the order of their row ids. -/
structure Database where
  projects : List ProjectRow
  tasks : List TaskRow
  taskCheckpoints : List CheckpointRow
  sessionMetadata : List MetadataRow
  deriving DecidableEq

def Database.empty : Database := ⟨[],[],[],[]⟩

namespace Database

def foreignKeyFailed : String := "FOREIGN KEY constraint failed"

/-- Every column of a conflicting row but its id. -/
def upsertProject (row : ProjectRow) (db : Database) : Except String Database :=
  .ok { db with projects := upsert ProjectRow.id (fun _ new => new) row db.projects }

def upsertMetadata (row : MetadataRow) (db : Database) : Except String Database :=
  .ok { db with
    sessionMetadata := upsert MetadataRow.key (fun _ new => new) row db.sessionMetadata }

/-- Every column of a conflicting row but its id and its project. -/
def mergeTask (old new : TaskRow) : TaskRow := { new with projectId := old.projectId }

/-- The foreign key is checked for a new row; an update does not touch its column. -/
def upsertTask (row : TaskRow) (db : Database) : Except String Database :=
  if (db.tasks.any fun r => r.id = row.id) || db.projects.any fun p => p.id = row.projectId then
    .ok { db with tasks := upsert TaskRow.id mergeTask row db.tasks }
  else .error foreignKeyFailed

/-- Every column of a conflicting row but its id and its task. -/
def mergeCheckpoint (old new : CheckpointRow) : CheckpointRow := { new with taskId := old.taskId }

def upsertCheckpoint (row : CheckpointRow) (db : Database) : Except String Database :=
  if (db.taskCheckpoints.any fun r => r.id = row.id) || db.tasks.any fun t => t.id = row.taskId then
    .ok { db with
      taskCheckpoints := upsert CheckpointRow.id mergeCheckpoint row db.taskCheckpoints }
  else .error foreignKeyFailed

def findProject (id : String) (db : Database) : Option ProjectRow :=
  db.projects.find? fun r => r.id = .text id

def findTask (id : String) (db : Database) : Option TaskRow :=
  db.tasks.find? fun r => r.id = .text id

/-- `SELECT value FROM session_metadata WHERE key = 'last_active_project_id'` -/
def lastActiveProjectId (db : Database) : Except String String :=
  firstRow (fun r => r.value.getText 0 "value")
    (db.sessionMetadata.find? fun r => r.key = .text "last_active_project_id")

/-- `SELECT project_id FROM tasks WHERE id = ?1` -/
def projectIdOfTask (id : String) (db : Database) : Except String String :=
  firstRow (fun r => r.projectId.getText 0 "project_id") (db.findTask id)

/-- `SELECT id FROM projects ORDER BY rowid DESC LIMIT 1` -/
def newestProjectId (db : Database) : Except String String :=
  firstRow (fun r => r.id.getText 0 "id") db.projects.getLast?

/-- `SELECT id FROM tasks WHERE project_id = ?1 AND is_active = 1 ORDER BY rowid DESC LIMIT 1` -/
def activeTaskId (projectId : String) (db : Database) : Except String String :=
  firstRow (fun r => r.id.getText 0 "id")
    (db.tasks.reverse.find? fun r => r.projectId = .text projectId ∧ r.isActive = .integer 1)

/-- `SELECT … FROM task_checkpoints WHERE task_id = ?1 ORDER BY timestamp_millis ASC` -/
def checkpointsOf (taskId : String) (db : Database) : List CheckpointRow :=
  (db.taskCheckpoints.filter fun r => r.taskId = .text taskId).mergeSort
    fun a b => a.timestampMillis.le b.timestampMillis

end Database

/-- A connection: what each statement in turn fails with, if it does, and how many have run. A
statement is applied as a whole or fails without effect. -/
structure Connection where
  database : Database
  failure : Nat → Option String
  statements : Nat

namespace Connection

variable {α : Type}

def query (select : Database → Except String α) (c : Connection) : Except String α × Connection :=
  let ran := { c with statements := c.statements + 1 }
  match c.failure c.statements with
  | some message => (.error message, ran)
  | none => (select c.database, ran)

def execute (change : Database → Except String Database) (c : Connection) :
    Except String Unit × Connection :=
  let ran := { c with statements := c.statements + 1 }
  match c.failure c.statements with
  | some message => (.error message, ran)
  | none =>
    match change c.database with
    | .error message => (.error message, ran)
    | .ok db => (.ok (), { ran with database := db })

end Connection

def toStorageErr (message : String) : ApplicationError := .storage message

def outOfRange : ApplicationError :=
  .storage "out of range integral type conversion attempted"

def i64FromU64 (val : UInt64) : Except ApplicationError Int64 :=
  if val < 0x8000000000000000 then .ok val.toInt64 else .error outOfRange

def u64FromI64 (val : Int64) : Except ApplicationError UInt64 :=
  if 0 ≤ val then .ok val.toUInt64 else .error outOfRange

def u16FromI64 (val : Int64) : Except ApplicationError UInt16 :=
  if 0 ≤ val ∧ val ≤ 65535 then .ok val.toUInt64.toUInt16 else .error outOfRange

structure RawTaskBudget where
  maxMem : Int64
  maxDisk : Int64
  maxTools : Int64
  maxPrompt : Option Int64
  maxCompletion : Option Int64
  maxCost : Option Int64

def RawTaskBudget.intoResourceBudget (raw : RawTaskBudget) :
    Except ApplicationError ResourceBudget := do
  let mem ← u64FromI64 raw.maxMem
  let disk ← u64FromI64 raw.maxDisk
  let tools ← u16FromI64 raw.maxTools
  let budget ← (ResourceBudget.new mem disk tools).mapError fun e => toStorageErr e.toString
  match raw.maxPrompt, raw.maxCompletion, raw.maxCost with
  | some p, some c, some cost =>
    let p ← u64FromI64 p
    let c ← u64FromI64 c
    let cost ← u64FromI64 cost
    (budget.withTokenLimits p c cost).mapError fun e => toStorageErr e.toString
  | _, _, _ => return budget

def parseTaskRow (row : TaskRow) : Except ApplicationError Task := do
  let idStr ← (row.id.getText 0 "id").mapError toStorageErr
  let goal ← (row.goal.getText 1 "goal").mapError toStorageErr
  let modeStr ← (row.executionMode.getText 2 "execution_mode").mapError toStorageErr
  let maxMem ← (row.maxMemoryBytes.getInteger 3 "max_memory_bytes").mapError toStorageErr
  let maxDisk ← (row.maxDiskWriteBytes.getInteger 4 "max_disk_write_bytes").mapError toStorageErr
  let maxTools ← (row.maxConcurrentTools.getInteger 5 "max_concurrent_tools").mapError toStorageErr
  let maxPrompt ← (row.maxPromptTokens.getOptional 6 "max_prompt_tokens").mapError toStorageErr
  let maxCompletion ←
    (row.maxCompletionTokens.getOptional 7 "max_completion_tokens").mapError toStorageErr
  let maxCost ← (row.maxCostMicros.getOptional 8 "max_cost_micros").mapError toStorageErr
  let budget ←
    RawTaskBudget.intoResourceBudget ⟨maxMem,maxDisk,maxTools,maxPrompt,maxCompletion,maxCost⟩
  let taskId ← (TaskId.new idStr).mapError fun e => toStorageErr e.toString
  let task ← (Task.new taskId goal budget).mapError fun e => toStorageErr e.toString
  if modeStr = "act" then return task.setExecutionMode .act
  else return task.setExecutionMode .plan

def parseProjectRow (row : ProjectRow) : Except ApplicationError Project := do
  let idStr ← (row.id.getText 0 "id").mapError toStorageErr
  let displayName ← (row.displayName.getText 1 "display_name").mapError toStorageErr
  let canonicalRoot ← (row.canonicalRoot.getText 2 "canonical_root").mapError toStorageErr
  let trusted ← (row.trusted.getInteger 3 "trusted").mapError toStorageErr
  let projectId ← (ProjectId.new idStr).mapError fun e => .invalidProject e.toString
  (Project.new projectId displayName canonicalRoot (trusted ≠ 0)).mapError
    fun e => .invalidProject e.toString

def parseCheckpointRow (row : CheckpointRow) : Except ApplicationError TaskCheckpoint := do
  let id ← (row.id.getText 0 "id").mapError toStorageErr
  let description ← (row.description.getText 1 "description").mapError toStorageErr
  let gitRef ← (row.gitRef.getText 2 "git_ref").mapError toStorageErr
  let ts ← (row.timestampMillis.getInteger 3 "timestamp_millis").mapError toStorageErr
  let ts ← u64FromI64 ts
  (TaskCheckpoint.new id description gitRef ts).mapError fun e => toStorageErr e.toString

def modeStr : ExecutionMode → String
  | .plan => "plan"
  | .act => "act"

/-- `i64::from` of a flag. -/
def i64FromBool (b : Bool) : Int64 := if b then 1 else 0

def projectParams (project : Project) : ProjectRow where
  id := .text project.id.asStr
  displayName := .text project.displayName.text
  canonicalRoot := .text project.canonicalRoot.text
  trusted := .integer (i64FromBool project.trusted)

def optionalFromU64 : Option UInt64 → Except ApplicationError (Option Int64)
  | none => .ok none
  | some val => (i64FromU64 val).map some

def taskParams (task : Task) (projectId : String) : Except ApplicationError TaskRow := do
  let mem ← i64FromU64 task.budget.maxMemoryBytes
  let disk ← i64FromU64 task.budget.maxDiskWriteBytes
  let prompt ← optionalFromU64 task.budget.maxPromptTokens
  let completion ← optionalFromU64 task.budget.maxCompletionTokens
  let cost ← optionalFromU64 task.budget.maxCostMicros
  return {
    id := .text task.id.asStr
    projectId := .text projectId
    goal := .text task.goal.text
    state := .text task.state.debug
    executionMode := .text (modeStr task.executionMode)
    maxMemoryBytes := .integer mem
    maxDiskWriteBytes := .integer disk
    maxConcurrentTools := .integer task.budget.maxConcurrentTools.toUInt64.toInt64
    maxPromptTokens := .ofOptional prompt
    maxCompletionTokens := .ofOptional completion
    maxCostMicros := .ofOptional cost
    isActive := .integer (i64FromBool task.isActive) }

namespace Connection

def saveProject (project : Project) (c : Connection) : Except ApplicationError Unit × Connection :=
  match c.execute (Database.upsertProject (projectParams project)) with
  | (.error e, c) => (.error (toStorageErr e), c)
  | (.ok (), c) =>
    match c.execute (Database.upsertMetadata
        ⟨.text "last_active_project_id",.text project.id.asStr⟩) with
    | (.error e, c) => (.error (toStorageErr e), c)
    | (.ok (), c) => (.ok (), c)

def loadProject (id : String) (c : Connection) :
    Except ApplicationError (Option Project) × Connection :=
  match c.query fun db => .ok (db.findProject id) with
  | (.error e, c) => (.error (toStorageErr e), c)
  | (.ok none, c) => (.ok none, c)
  | (.ok (some row), c) => ((parseProjectRow row).map some, c)

def loadLastActiveProject (c : Connection) :
    Except ApplicationError (Option Project) × Connection :=
  match c.query Database.lastActiveProjectId with
  | (.error _, c) => (.ok none, c)
  | (.ok projectId, c) => c.loadProject projectId

/-- The project a task is saved under: the one of its row, else the last active one, else the
newest. A lookup that fails counts as one that found nothing. -/
def projectFor (taskId : String) (c : Connection) : Except ApplicationError String × Connection :=
  match c.query (Database.projectIdOfTask taskId) with
  | (.ok pid, c) => (.ok pid, c)
  | (.error _, c) =>
    match c.query Database.lastActiveProjectId with
    | (.ok pid, c) => (.ok pid, c)
    | (.error _, c) =>
      match c.query Database.newestProjectId with
      | (.ok pid, c) => (.ok pid, c)
      | (.error _, c) => (.error (.storage "Cannot save task without an associated project"), c)

def saveTask (task : Task) (c : Connection) : Except ApplicationError Unit × Connection :=
  match c.projectFor task.id.asStr with
  | (.error e, c) => (.error e, c)
  | (.ok projectId, c) =>
    match taskParams task projectId with
    | .error e => (.error e, c)
    | .ok row =>
      match c.execute (Database.upsertTask row) with
      | (.error e, c) => (.error (toStorageErr e), c)
      | (.ok (), c) => (.ok (), c)

def loadTask (id : String) (c : Connection) : Except ApplicationError (Option Task) × Connection :=
  match c.query fun db => .ok (db.findTask id) with
  | (.error e, c) => (.error (toStorageErr e), c)
  | (.ok none, c) => (.ok none, c)
  | (.ok (some row), c) => ((parseTaskRow row).map some, c)

def loadActiveTask (projectId : String) (c : Connection) :
    Except ApplicationError (Option Task) × Connection :=
  match c.query (Database.activeTaskId projectId) with
  | (.error _, c) => (.ok none, c)
  | (.ok id, c) => c.loadTask id

def saveCheckpoint (taskId : String) (checkpoint : TaskCheckpoint) (c : Connection) :
    Except ApplicationError Unit × Connection :=
  match i64FromU64 checkpoint.timestampMillis with
  | .error e => (.error e, c)
  | .ok ts =>
    match c.execute (Database.upsertCheckpoint ⟨.text checkpoint.id.text,.text taskId,
        .text checkpoint.description.text,.text checkpoint.gitRef.text,.integer ts⟩) with
    | (.error e, c) => (.error (toStorageErr e), c)
    | (.ok (), c) => (.ok (), c)

def listCheckpoints (taskId : String) (c : Connection) :
    Except ApplicationError (List TaskCheckpoint) × Connection :=
  match c.query fun db => .ok (db.checkpointsOf taskId) with
  | (.error e, c) => (.error (toStorageErr e), c)
  | (.ok rows, c) => (rows.mapM parseCheckpointRow, c)

end Connection

structure SqliteStateRepository where
  connection : Connection
  /-- The mutex around the connection. -/
  poisoned : Bool

namespace SqliteStateRepository

/-- `SqliteStateRepository::in_memory` over a connection none of whose statements fail. -/
def inMemory : SqliteStateRepository := ⟨⟨Database.empty,fun _ => none,0⟩,false⟩

def withLock {α : Type} (body : Connection → Except ApplicationError α × Connection)
    (repo : SqliteStateRepository) : Except ApplicationError α × SqliteStateRepository :=
  if repo.poisoned then (.error (.storage "mutex poisoned"), repo)
  else
    let (result, connection) := body repo.connection
    (result, { repo with connection := connection })

instance : StateRepository SqliteStateRepository where
  saveProject project := withLock (Connection.saveProject project)
  loadProject id := withLock (Connection.loadProject id)
  loadLastActiveProject := withLock Connection.loadLastActiveProject
  saveTask task := withLock (Connection.saveTask task)
  loadTask id := withLock (Connection.loadTask id)
  loadActiveTask projectId := withLock (Connection.loadActiveTask projectId)
  saveCheckpoint taskId checkpoint := withLock (Connection.saveCheckpoint taskId checkpoint)
  listCheckpoints taskId := withLock (Connection.listCheckpoints taskId)

end SqliteStateRepository

end Kesharon.Daemon

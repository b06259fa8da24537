import Kesharon.Daemon.Storage

namespace Kesharon.Daemon

open Framework Framework.Sql Domain Application

theorem toInt_toInt64 {val : UInt64} (h : val < 0x8000000000000000) :
    val.toInt64.toInt = val.toNat := by
  have hlt : val.toNat < 2^63 := UInt64.lt_iff_toNat_lt.mp h
  change val.toBitVec.toInt = _
  rw [BitVec.toInt_eq_toNat_of_lt (by change 2 * val.toNat < 2^64; omega)]
  rfl

/-- What the writing conversion lets through, the reading one gives back. -/
theorem u64FromI64_of_i64FromU64 {val : UInt64} {n : Int64} (h : i64FromU64 val = .ok n) :
    u64FromI64 n = .ok val := by
  unfold i64FromU64 at h
  split_ifs at h with hlt
  obtain rfl := Except.ok.inj h
  have hnonneg : 0 ≤ val.toInt64 := by
    rw [Int64.le_iff_toInt_le, toInt_toInt64 hlt]
    exact Int.natCast_nonneg _
  unfold u64FromI64
  rw [if_pos hnonneg, UInt64.toUInt64_toInt64]

theorem u16FromI64_toInt64 (val : UInt16) : u16FromI64 val.toUInt64.toInt64 = .ok val := by
  have hlt := val.toNat_lt
  have hsmall : val.toUInt64 < 0x8000000000000000 := by
    rw [UInt64.lt_iff_toNat_lt]
    change val.toUInt64.toNat < 0x8000000000000000
    rw [UInt16.toNat_toUInt64]
    omega
  have hint : val.toUInt64.toInt64.toInt = val.toNat := by
    rw [toInt_toInt64 hsmall, UInt16.toNat_toUInt64]
  have hrange : 0 ≤ val.toUInt64.toInt64 ∧ val.toUInt64.toInt64 ≤ 65535 := by
    simp only [Int64.le_iff_toInt_le, hint]
    constructor
    · exact Int.natCast_nonneg _
    · change (val.toNat : Int) ≤ 65535
      omega
  unfold u16FromI64
  rw [if_pos hrange]
  simp

theorem optionalFromU64_cases {limit : Option UInt64} {n : Option Int64}
    (h : optionalFromU64 limit = .ok n) :
    limit = none ∧ n = none ∨
      ∃ val m, limit = some val ∧ n = some m ∧ i64FromU64 val = .ok m := by
  cases limit with
  | none =>
    obtain rfl := Except.ok.inj h
    exact .inl ⟨rfl, rfl⟩
  | some val =>
    cases hv : i64FromU64 val with
    | error e => simp [optionalFromU64, hv, Except.map] at h
    | ok m =>
      obtain rfl : some m = n := by simpa [optionalFromU64, hv, Except.map] using h
      exact .inr ⟨val, m, rfl, rfl, hv⟩

/-- A budget that fits its columns is read back whole. -/
theorem intoResourceBudget_of_params {b : ResourceBudget} {mem disk : Int64}
    {prompt completion cost : Option Int64} (hmem : i64FromU64 b.maxMemoryBytes = .ok mem)
    (hdisk : i64FromU64 b.maxDiskWriteBytes = .ok disk)
    (hprompt : optionalFromU64 b.maxPromptTokens = .ok prompt)
    (hcompletion : optionalFromU64 b.maxCompletionTokens = .ok completion)
    (hcost : optionalFromU64 b.maxCostMicros = .ok cost) :
    RawTaskBudget.intoResourceBudget
      ⟨mem,disk,b.maxConcurrentTools.toUInt64.toInt64,prompt,completion,cost⟩ = .ok b := by
  obtain ⟨base, hnew, hlimits⟩ := b.rebuild
  have hvalid := b.limits_valid
  simp only [RawTaskBudget.intoResourceBudget, u64FromI64_of_i64FromU64 hmem,
    u64FromI64_of_i64FromU64 hdisk, u16FromI64_toInt64, hnew, bind, Except.bind, Except.mapError]
  rcases optionalFromU64_cases hprompt with ⟨hp, rfl⟩ | ⟨p, p', hp, rfl, hp'⟩ <;>
    rcases optionalFromU64_cases hcompletion with ⟨hc, rfl⟩ | ⟨c, c', hc, rfl, hc'⟩ <;>
    rcases optionalFromU64_cases hcost with ⟨hm, rfl⟩ | ⟨m, m', hm, rfl, hm'⟩ <;>
    simp only [hp, hc, hm, TokenLimitsValid] at hvalid hlimits
  · rw [Except.ok.inj hlimits]
    rfl
  · simp only [u64FromI64_of_i64FromU64 hp', u64FromI64_of_i64FromU64 hc',
      u64FromI64_of_i64FromU64 hm', hlimits]

/-- What `parse_task_row` makes of a task: its state and its plan are not read. -/
def reloaded (task : Task) : Task := { task with state := .draft, plan := none }

theorem reloaded_eq_iff {task : Task} (h : task.PlanInvariant) :
    reloaded task = task ↔ task.state = .draft := by
  constructor
  · intro he
    have hstate := congrArg Task.state he
    exact hstate.symm
  · intro hd
    have hplan : task.plan = none := h (.inl hd)
    unfold reloaded
    rw [← hd, ← hplan]

/-- The columns of a task fit, or the first that does not is out of range. -/
theorem taskParams_ok {task : Task} {projectId : String} {row : TaskRow}
    (h : taskParams task projectId = .ok row) :
    ∃ mem disk prompt completion cost, i64FromU64 task.budget.maxMemoryBytes = .ok mem ∧
      i64FromU64 task.budget.maxDiskWriteBytes = .ok disk ∧
      optionalFromU64 task.budget.maxPromptTokens = .ok prompt ∧
      optionalFromU64 task.budget.maxCompletionTokens = .ok completion ∧
      optionalFromU64 task.budget.maxCostMicros = .ok cost ∧
      row = {
        id := .text task.id.asStr
        projectId := .text projectId
        goal := .text task.goal.text
        state := .text task.state.debug
        executionMode := .text (modeStr task.executionMode)
        maxMemoryBytes := .integer mem
        maxDiskWriteBytes := .integer disk
        maxConcurrentTools := .integer task.budget.maxConcurrentTools.toUInt64.toInt64
        maxPromptTokens := .ofOptional prompt
        maxCompletionTokens := .ofOptional completion
        maxCostMicros := .ofOptional cost
        isActive := .integer (i64FromBool task.isActive) } := by
  simp only [taskParams, bind, Except.bind] at h
  cases hmem : i64FromU64 task.budget.maxMemoryBytes with
  | error e => simp [hmem] at h
  | ok mem =>
    cases hdisk : i64FromU64 task.budget.maxDiskWriteBytes with
    | error e => simp [hmem, hdisk] at h
    | ok disk =>
      cases hprompt : optionalFromU64 task.budget.maxPromptTokens with
      | error e => simp [hmem, hdisk, hprompt] at h
      | ok prompt =>
        cases hcompletion : optionalFromU64 task.budget.maxCompletionTokens with
        | error e => simp [hmem, hdisk, hprompt, hcompletion] at h
        | ok completion =>
          cases hcost : optionalFromU64 task.budget.maxCostMicros with
          | error e => simp [hmem, hdisk, hprompt, hcompletion, hcost] at h
          | ok cost =>
            simp only [hmem, hdisk, hprompt, hcompletion, hcost, pure, Except.pure,
              Except.ok.injEq] at h
            exact ⟨mem, disk, prompt, completion, cost, rfl, rfl, rfl, rfl, rfl, h.symm⟩

/-- The columns of a saved task determine it up to state and plan, whatever its project. -/
theorem parseTaskRow_of_params {task : Task} {projectId : String} {row : TaskRow}
    (h : taskParams task projectId = .ok row) (project : Value) :
    parseTaskRow { row with projectId := project } = .ok (reloaded task) := by
  obtain ⟨mem, disk, prompt, completion, cost, hmem, hdisk, hprompt, hcompletion, hcost, rfl⟩ :=
    taskParams_ok h
  have hbudget := intoResourceBudget_of_params hmem hdisk hprompt hcompletion hcost
  have hgoal := nonBlank_text TaskError.emptyGoal task.goal
  simp only [parseTaskRow, Value.getText_text, Value.getInteger_integer,
    Value.getOptional_ofOptional, Except.mapError, bind, Except.bind, hbudget, TaskId.new_asStr,
    Task.new, hgoal, pure, Except.pure]
  cases hmode : task.executionMode <;> simp [modeStr, reloaded, hmode, Task.setExecutionMode]

/-- Only one column of a task's row depends on its project. -/
theorem taskParams_project {task : Task} {p q : String} {row row' : TaskRow}
    (h : taskParams task p = .ok row) (h' : taskParams task q = .ok row') :
    row' = { row with projectId := .text q } := by
  obtain ⟨mem, disk, prompt, completion, cost, hmem, hdisk, hprompt, hcompletion, hcost, rfl⟩ :=
    taskParams_ok h
  obtain ⟨mem', disk', prompt', completion', cost', hmem', hdisk', hprompt', hcompletion',
    hcost', rfl⟩ := taskParams_ok h'
  obtain rfl := Except.ok.inj (hmem.symm.trans hmem')
  obtain rfl := Except.ok.inj (hdisk.symm.trans hdisk')
  obtain rfl := Except.ok.inj (hprompt.symm.trans hprompt')
  obtain rfl := Except.ok.inj (hcompletion.symm.trans hcompletion')
  obtain rfl := Except.ok.inj (hcost.symm.trans hcost')
  rfl

theorem taskParams_id {task : Task} {projectId : String} {row : TaskRow}
    (h : taskParams task projectId = .ok row) : row.id = .text task.id.asStr := by
  obtain ⟨_, _, _, _, _, _, _, _, _, _, rfl⟩ := taskParams_ok h
  rfl

namespace Connection

variable {α : Type}

/-- Same tables and same failures to come. -/
structure Same (c c' : Connection) : Prop where
  database : c'.database = c.database
  failure : c'.failure = c.failure

theorem Same.trans {c c' c'' : Connection} (h : Same c c') (h' : Same c' c'') : Same c c'' :=
  ⟨h'.database.trans h.database, h'.failure.trans h.failure⟩

theorem query_same (select : Database → Except String α) (c : Connection) :
    Same c (c.query select).2 := by
  unfold query
  cases c.failure c.statements <;> exact ⟨rfl, rfl⟩

theorem query_of_sound {select : Database → Except String α} {c : Connection}
    (h : c.failure c.statements = none) : (c.query select).1 = select c.database := by
  unfold query
  rw [h]

/-- A writing statement that succeeds has been applied. -/
theorem execute_ok {change : Database → Except String Database} {c c' : Connection}
    (h : c.execute change = (.ok (), c')) :
    change c.database = .ok c'.database ∧ c'.failure = c.failure := by
  unfold execute at h
  cases hf : c.failure c.statements with
  | some message => simp [hf] at h
  | none =>
    simp only [hf] at h
    cases hc : change c.database with
    | error message => simp [hc] at h
    | ok db =>
      simp only [hc, Prod.mk.injEq, true_and] at h
      subst h
      exact ⟨rfl, rfl⟩

/-- A writing statement that fails has had no effect. -/
theorem execute_error {change : Database → Except String Database} {c c' : Connection}
    {message : String} (h : c.execute change = (.error message, c')) : Same c c' := by
  unfold execute at h
  cases hf : c.failure c.statements with
  | some other =>
    simp only [hf, Prod.mk.injEq] at h
    rw [← h.2]
    exact ⟨rfl, rfl⟩
  | none =>
    simp only [hf] at h
    cases hc : change c.database with
    | error other =>
      simp only [hc, Prod.mk.injEq] at h
      rw [← h.2]
      exact ⟨rfl, rfl⟩
    | ok db => simp [hc] at h

/-- Looking a project up only reads. -/
theorem projectFor_same (taskId : String) (c : Connection) : Same c (c.projectFor taskId).2 := by
  unfold projectFor
  have first := query_same (Database.projectIdOfTask taskId) c
  cases h : c.query (Database.projectIdOfTask taskId) with
  | mk r d =>
    rw [h] at first
    cases r with
    | ok pid => exact first
    | error e =>
      have second := query_same Database.lastActiveProjectId d
      cases h' : d.query Database.lastActiveProjectId with
      | mk r' d' =>
        rw [h'] at second
        cases r' with
        | ok pid =>
          simp only [h']
          exact first.trans second
        | error e =>
          have third := query_same Database.newestProjectId d'
          cases h'' : d'.query Database.newestProjectId with
          | mk r'' d'' =>
            rw [h''] at third
            simp only [h', h'']
            cases r'' <;> exact first.trans (second.trans third)

/-- A task's save only reads, or upserts its parameters. -/
theorem saveTask_cases (task : Task) (c : Connection) :
    (∃ e, (c.saveTask task).1 = .error e ∧ Same c (c.saveTask task).2) ∨
      ∃ projectId row, taskParams task projectId = .ok row ∧ (c.saveTask task).1 = .ok () ∧
        (c.saveTask task).2.database = { c.database with
          tasks := upsert TaskRow.id Database.mergeTask row c.database.tasks } ∧
        (c.saveTask task).2.failure = c.failure ∧
        (c.projectFor task.id.asStr).1 = .ok projectId := by
  unfold saveTask
  have looked := projectFor_same task.id.asStr c
  cases hp : c.projectFor task.id.asStr with
  | mk r d =>
    rw [hp] at looked
    cases r with
    | error e => exact .inl ⟨e, rfl, looked⟩
    | ok projectId =>
      dsimp only
      cases hrow : taskParams task projectId with
      | error e => exact .inl ⟨e, rfl, looked⟩
      | ok row =>
        dsimp only
        cases he : d.execute (Database.upsertTask row) with
        | mk r' d' =>
          cases r' with
          | error e => exact .inl ⟨toStorageErr e, rfl, looked.trans (execute_error he)⟩
          | ok u =>
            obtain ⟨hchange, hfail⟩ := execute_ok he
            unfold Database.upsertTask at hchange
            split_ifs at hchange
            refine .inr ⟨projectId, row, hrow, rfl, ?_, hfail.trans looked.failure, rfl⟩
            rw [← Except.ok.inj hchange, looked.database]

/-- The row a saved task is found in: its parameters, under the project it already had or got. -/
theorem saveTask_found {task : Task} {c : Connection} (h : (c.saveTask task).1 = .ok ()) :
    ∃ projectId row project, taskParams task projectId = .ok row ∧
      (c.saveTask task).2.database.findTask task.id.asStr =
        some { row with projectId := project } := by
  rcases saveTask_cases task c with ⟨e, he, _⟩ | ⟨projectId, row, hrow, _, hdb, _⟩
  · rw [he] at h
    exact absurd h (by simp)
  · have found := find?_upsert_self row (fun old => (rfl :
      TaskRow.id (Database.mergeTask old row) = row.id)) c.database.tasks
    rw [taskParams_id hrow] at found
    cases hold : c.database.tasks.find? fun r => r.id = .text task.id.asStr with
    | none =>
      refine ⟨projectId, row, row.projectId, hrow, ?_⟩
      rw [hdb]
      rw [hold] at found
      exact found
    | some old =>
      refine ⟨projectId, row, old.projectId, hrow, ?_⟩
      rw [hdb]
      rw [hold] at found
      exact found

/-- Saving a task whose row holds its parameters changes no column. -/
theorem saveTask_again {task : Task} {c : Connection} {projectId : String} {row : TaskRow}
    {project : Value} (params : taskParams task projectId = .ok row)
    (found : c.database.findTask task.id.asStr = some { row with projectId := project }) :
    (c.saveTask task).2.database = c.database := by
  rcases saveTask_cases task c with ⟨_, _, same⟩ | ⟨q, row', hrow', _, hdb, _⟩
  · exact same.database
  · have hid := taskParams_id hrow'
    have kept : upsert TaskRow.id Database.mergeTask row' c.database.tasks = c.database.tasks := by
      have hfound : (c.database.tasks.find? fun r => r.id = row'.id) =
          some { row with projectId := project } := by
        rw [hid]
        exact found
      apply upsert_of_find? hfound
      rw [taskParams_project params hrow']
      rfl
    rw [hdb, kept]

theorem loadTask_of_find {id : String} {row : TaskRow} {c : Connection}
    (sound : c.failure c.statements = none) (found : c.database.findTask id = some row) :
    (c.loadTask id).1 = (parseTaskRow row).map some ∧ Same c (c.loadTask id).2 := by
  unfold loadTask
  have read : (c.query fun db => .ok (db.findTask id)).1 = .ok (c.database.findTask id) :=
    query_of_sound sound
  have same := query_same (fun db => .ok (db.findTask id)) c
  cases hq : c.query fun db => .ok (db.findTask id) with
  | mk r d =>
    rw [hq] at read same
    rw [found] at read
    obtain rfl : r = .ok (some row) := read
    exact ⟨rfl, same⟩

theorem sound_of_loadTask {id : String} {loaded : Option Task} {c : Connection}
    (read : (c.loadTask id).1 = .ok loaded) : c.failure c.statements = none := by
  cases h : c.failure c.statements with
  | none => rfl
  | some message => simp [loadTask, query, h] at read

end Connection

section RoundTrip

variable {task : Task} {repo repo' : SqliteStateRepository}

/-- A saved task's parameters are in the table of a repository whose lock is free. -/
theorem row_of_saveTask (saved : StateRepository.saveTask task repo = (.ok (), repo')) :
    repo'.poisoned = false ∧
      ∃ projectId row project, taskParams task projectId = .ok row ∧
        repo'.connection.database.findTask task.id.asStr =
          some { row with projectId := project } := by
  obtain ⟨c, poisoned⟩ := repo
  cases poisoned with
  | true => exact absurd (congrArg Prod.fst saved) (by simp [StateRepository.saveTask,
      SqliteStateRepository.withLock])
  | false =>
    obtain ⟨hok, rfl⟩ : (c.saveTask task).1 = .ok () ∧ ⟨(c.saveTask task).2,false⟩ = repo' :=
      Prod.mk.inj saved
    exact ⟨rfl, Connection.saveTask_found hok⟩

/-- A saved task is reloaded as a draft without a plan. -/
theorem loadTask_of_saveTask (saved : StateRepository.saveTask task repo = (.ok (), repo'))
    (sound : repo'.connection.failure repo'.connection.statements = none) :
    StateRepository.loadTask task.id.asStr repo' = (.ok (some (reloaded task)),
      { repo' with connection := (repo'.connection.loadTask task.id.asStr).2 }) := by
  obtain ⟨free, projectId, row, project, params, found⟩ := row_of_saveTask saved
  obtain ⟨read, _⟩ := Connection.loadTask_of_find sound found
  rw [parseTaskRow_of_params params project] at read
  obtain ⟨c, poisoned⟩ := repo'
  obtain rfl : poisoned = false := free
  exact Prod.ext read rfl

/-- A reload that returns a task did not have its statement fail. -/
theorem sound_of_loadTask {id : String} {loaded : Option Task}
    (read : (StateRepository.loadTask id repo).1 = .ok loaded) :
    repo.connection.failure repo.connection.statements = none := by
  obtain ⟨c, poisoned⟩ := repo
  cases poisoned with
  | true => exact absurd read (by simp [StateRepository.loadTask, SqliteStateRepository.withLock])
  | false => exact Connection.sound_of_loadTask read

/-- Tasks survive persistence exactly as drafts. For a task made by any lifecycle calls, saved
successfully: it is reloaded equal, and saving what was reloaded changes no row, if and only if
the task is a draft and the reload's own statement does not fail. -/
theorem task_survives_iff {id : TaskId} {goal : String} {budget : ResourceBudget} {first : Task}
    {calls : List LifecycleCall} (created : Task.new id goal budget = .ok first)
    (reached : task = first.after calls)
    (saved : StateRepository.saveTask task repo = (.ok (), repo')) :
    ((StateRepository.loadTask task.id.asStr repo').1 = .ok (some task) ∧
      ∀ loaded repo'', StateRepository.loadTask task.id.asStr repo' = (.ok (some loaded), repo'') →
        (StateRepository.saveTask loaded repo'').2.connection.database =
          repo'.connection.database) ↔
      task.state = .draft ∧ repo'.connection.failure repo'.connection.statements = none := by
  have plans : task.PlanInvariant := by
    rw [reached]
    exact Task.after_planInvariant (Task.new_planInvariant created) calls
  constructor
  · intro survives
    have equal := survives.1
    have sound := sound_of_loadTask equal
    rw [loadTask_of_saveTask saved sound] at equal
    exact ⟨(reloaded_eq_iff plans).mp (Option.some.inj (Except.ok.inj equal)), sound⟩
  · intro ⟨draft, sound⟩
    obtain ⟨free, projectId, row, project, params, found⟩ := row_of_saveTask saved
    have reload := loadTask_of_saveTask saved sound
    rw [(reloaded_eq_iff plans).mpr draft] at reload
    refine ⟨by rw [reload], ?_⟩
    intro loaded repo'' again
    rw [reload] at again
    obtain ⟨hloaded, rfl⟩ := Prod.mk.inj again
    obtain rfl := Option.some.inj (Except.ok.inj hloaded)
    have read := (Connection.loadTask_of_find sound found).2
    have kept := Connection.saveTask_again params (by rw [read.database]; exact found)
    obtain ⟨c, poisoned⟩ := repo'
    obtain rfl : poisoned = false := free
    exact kept.trans read.database

end RoundTrip

def plainProject : Project := ⟨⟨⟨"p",by decide⟩⟩,⟨"name",by decide⟩,⟨"/p",by decide⟩,false⟩

/-- A task before its first lifecycle call. -/
def draft : Task :=
  ⟨⟨⟨"t",by decide⟩⟩,⟨"goal",by decide⟩,
    ⟨1,2,3,none,none,none,by decide,by decide,by decide,by decide⟩,.draft,.plan,none⟩

/-- A draft in act mode with token limits comes back as it was saved. -/
theorem task_survives_draft :
    ∃ first repo, Task.new ⟨⟨"t",by decide⟩⟩ "goal" ⟨1,2,3,some 4,some 5,some 6,by decide,by decide,
        by decide,by decide⟩ = .ok first ∧
      repo = (StateRepository.saveTask (first.after [.setExecutionMode .act])
        (StateRepository.saveProject ⟨⟨⟨"p",by decide⟩⟩,⟨"name",by decide⟩,⟨"/p",by decide⟩,false⟩
          SqliteStateRepository.inMemory).2).2 ∧
      (StateRepository.loadTask "t" repo).1 =
        .ok (some (first.after [.setExecutionMode .act])) := by
  have created : Task.new ⟨⟨"t",by decide⟩⟩ "goal" ⟨1,2,3,some 4,some 5,some 6,by decide,by decide,
      by decide,by decide⟩ = .ok _ := rfl
  refine ⟨_, _, created, rfl, ?_⟩
  exact (Iff.mpr (task_survives_iff created rfl (Prod.ext rfl rfl)) ⟨rfl, rfl⟩).1

/-- A rejected task is not active, is reloaded as a draft, and saved again it is active. -/
theorem rejected_task_comes_back :
    ∃ first plan task repo repo' loaded again,
      Task.new ⟨⟨"t",by decide⟩⟩ "goal" ⟨1,2,3,none,none,none,by decide,by decide,by decide,
        by decide⟩ = .ok first ∧
      task = first.after [.startPlanning, .requestApproval plan, .reject] ∧
      task.state = .cancelled ∧
      StateRepository.saveTask task
        (StateRepository.saveProject ⟨⟨⟨"p",by decide⟩⟩,⟨"name",by decide⟩,⟨"/p",by decide⟩,false⟩
          SqliteStateRepository.inMemory).2 = (.ok (), repo) ∧
      (StateRepository.loadActiveTask "p" repo).1 = .ok none ∧
      StateRepository.loadTask "t" repo = (.ok (some loaded), repo') ∧ loaded.state = .draft ∧
      StateRepository.saveTask loaded repo' = (.ok (), again) ∧
      (StateRepository.loadActiveTask "p" again).1 = .ok (some loaded) := by
  refine ⟨_, ⟨[⟨⟨⟨"s",by decide⟩⟩,⟨"step",by decide⟩⟩],by decide⟩, _, _, _, _, _, rfl, rfl, rfl, rfl,
    rfl, rfl, rfl, rfl, rfl⟩

end Kesharon.Daemon

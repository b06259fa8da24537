import Kesharon.Daemon.StoreHistory

namespace Kesharon.Daemon

open Framework Framework.Sql Domain Application

/-- The limits of a budget that are wider than the columns they are stored in. -/
def u64Limits (b : ResourceBudget) : List UInt64 :=
  [b.maxMemoryBytes, b.maxDiskWriteBytes] ++ b.maxPromptTokens.toList ++
    b.maxCompletionTokens.toList ++ b.maxCostMicros.toList

/-- The token limits are all there or none of them is. -/
theorem limits_together (b : ResourceBudget) :
    b.maxPromptTokens.isSome = b.maxCompletionTokens.isSome ∧
      b.maxCompletionTokens.isSome = b.maxCostMicros.isSome := by
  obtain ⟨mem, disk, tools, prompt, completion, cost, _, _, _, valid⟩ := b
  cases prompt <;> cases completion <;> cases cost <;> first
    | exact ⟨rfl, rfl⟩
    | exact valid.elim

theorem i64FromU64_ok_iff {val : UInt64} :
    (∃ n, i64FromU64 val = .ok n) ↔ val.toNat ≤ 0x7fffffffffffffff := by
  have bound : val < 0x8000000000000000 ↔ val.toNat ≤ 0x7fffffffffffffff := by
    rw [UInt64.lt_iff_toNat_lt]
    change val.toNat < 0x8000000000000000 ↔ _
    omega
  unfold i64FromU64
  rw [← bound]
  split_ifs with h <;> simp [h]

theorem optionalFromU64_ok_iff {limit : Option UInt64} :
    (∃ n, optionalFromU64 limit = .ok n) ↔ ∀ val ∈ limit.toList, val.toNat ≤ 0x7fffffffffffffff := by
  cases limit with
  | none => simp [optionalFromU64]
  | some val =>
    rw [Option.toList_some, List.forall_mem_singleton, ← i64FromU64_ok_iff]
    cases h : i64FromU64 val <;> simp [optionalFromU64, h, Except.map]

/-- The columns of a task can be written exactly if every limit fits. -/
theorem taskParams_ok_iff (task : Task) (projectId : String) :
    (∃ row, taskParams task projectId = .ok row) ↔
      ∀ val ∈ u64Limits task.budget, val.toNat ≤ 0x7fffffffffffffff := by
  have split : (∀ val ∈ u64Limits task.budget, val.toNat ≤ 0x7fffffffffffffff) ↔
      (∃ n, i64FromU64 task.budget.maxMemoryBytes = .ok n) ∧
      (∃ n, i64FromU64 task.budget.maxDiskWriteBytes = .ok n) ∧
      (∃ n, optionalFromU64 task.budget.maxPromptTokens = .ok n) ∧
      (∃ n, optionalFromU64 task.budget.maxCompletionTokens = .ok n) ∧
      ∃ n, optionalFromU64 task.budget.maxCostMicros = .ok n := by
    rw [i64FromU64_ok_iff, i64FromU64_ok_iff, optionalFromU64_ok_iff, optionalFromU64_ok_iff,
      optionalFromU64_ok_iff]
    unfold u64Limits
    simp only [List.forall_mem_append, List.forall_mem_cons, List.not_mem_nil, IsEmpty.forall_iff,
      implies_true, and_true, and_assoc]
  rw [split]
  constructor
  · rintro ⟨row, h⟩
    obtain ⟨mem, disk, prompt, completion, cost, hmem, hdisk, hprompt, hcompletion, hcost, _⟩ :=
      taskParams_ok h
    exact ⟨⟨mem, hmem⟩, ⟨disk, hdisk⟩, ⟨prompt, hprompt⟩, ⟨completion, hcompletion⟩, ⟨cost, hcost⟩⟩
  · rintro ⟨⟨mem, hmem⟩, ⟨disk, hdisk⟩, ⟨prompt, hprompt⟩, ⟨completion, hcompletion⟩, ⟨cost, hcost⟩⟩
    simp [taskParams, hmem, hdisk, hprompt, hcompletion, hcost, bind, Except.bind, pure, Except.pure]

namespace WellFormed

variable {db db' : Database}

theorem empty : WellFormed Database.empty := by
  constructor <;> simp [Database.empty]

/-- A key stays in a table through an upsert. -/
theorem key_upsert {ρ κ : Type} [DecidableEq κ] {key : ρ → κ} {merge : ρ → ρ → ρ} {new : ρ}
    (hkey : ∀ row, key (merge row new) = key new) {rows : List ρ} {k : κ}
    (h : ∃ row ∈ rows, key row = k) : ∃ row ∈ upsert key merge new rows, key row = k := by
  have among : k ∈ (upsert key merge new rows).map key := by
    rw [map_key_upsert hkey]
    split_ifs
    · exact List.mem_map.mpr h
    · exact List.mem_append_left _ (List.mem_map.mpr h)
  exact List.mem_map.mp among

theorem putProject (h : WellFormed db) (p : Project) : WellFormed (db.putProject p) where
  pointer row among named := key_upsert (fun _ => rfl) (h.pointer row among named)
  taskProject t among := key_upsert (fun _ => rfl) (h.taskProject t among)
  checkpointTask := h.checkpointTask
  projectRow row among := by
    rcases mem_upsert among with old | ⟨rfl, _⟩ | ⟨_, _, _, rfl⟩
    · exact h.projectRow row old
    · exact ⟨p, parseProjectRow_params p⟩
    · exact ⟨p, parseProjectRow_params p⟩
  taskRow := h.taskRow
  checkpointRow := h.checkpointRow

theorem point (h : WellFormed db) {id : String} (known : ∃ p ∈ db.projects, p.id = .text id) :
    WellFormed (db.point id) where
  pointer row among named := by
    rcases mem_upsert among with old | ⟨rfl, _⟩ | ⟨_, _, _, rfl⟩
    · exact h.pointer row old named
    · exact known
    · exact known
  taskProject := h.taskProject
  checkpointTask := h.checkpointTask
  projectRow := h.projectRow
  taskRow := h.taskRow
  checkpointRow := h.checkpointRow

theorem task (h : WellFormed db) {t : Task} {projectId : String} {row : TaskRow}
    (params : taskParams t projectId = .ok row) (written : db.upsertTask row = .ok db') :
    WellFormed db' := by
  unfold Database.upsertTask at written
  split_ifs at written with checked
  obtain rfl := Except.ok.inj written
  refine ⟨h.pointer, ?_, ?_, h.projectRow, ?_, h.checkpointRow⟩
  · intro t' among
    rcases mem_upsert among with old | ⟨rfl, new⟩ | ⟨old, before, _, rfl⟩
    · exact h.taskProject t' old
    · have known : (db.projects.any fun p => p.id = t'.projectId) = true := by
        rcases Bool.or_eq_true_iff.mp checked with there | known
        · obtain ⟨r, hr, same⟩ := List.any_eq_true.mp there
          exact absurd (List.mem_map.mpr ⟨r, hr, of_decide_eq_true same⟩) new
        · exact known
      obtain ⟨p, hp, same⟩ := List.any_eq_true.mp known
      exact ⟨p, hp, of_decide_eq_true same⟩
    · exact h.taskProject old before
  · intro k among
    exact key_upsert (fun _ => rfl) (h.checkpointTask k among)
  · intro t' among
    rcases mem_upsert among with old | ⟨rfl, _⟩ | ⟨old, _, _, rfl⟩
    · exact h.taskRow t' old
    · exact ⟨_, parseTaskRow_of_params params t'.projectId⟩
    · exact ⟨_, parseTaskRow_of_params params old.projectId⟩

theorem checkpoint (h : WellFormed db) {k : TaskCheckpoint} {taskId : String} {ts : Int64}
    (fits : i64FromU64 k.timestampMillis = .ok ts)
    (written : db.upsertCheckpoint (checkpointParams k taskId ts) = .ok db') : WellFormed db' := by
  unfold Database.upsertCheckpoint at written
  split_ifs at written with checked
  obtain rfl := Except.ok.inj written
  refine ⟨h.pointer, h.taskProject, ?_, h.projectRow, h.taskRow, ?_⟩
  · intro k' among
    rcases mem_upsert among with old | ⟨rfl, new⟩ | ⟨old, before, _, rfl⟩
    · exact h.checkpointTask k' old
    · have known : (db.tasks.any fun t => t.id = .text taskId) = true := by
        rcases Bool.or_eq_true_iff.mp checked with there | known
        · obtain ⟨r, hr, same⟩ := List.any_eq_true.mp there
          exact absurd (List.mem_map.mpr ⟨r, hr, of_decide_eq_true same⟩) new
        · exact known
      obtain ⟨t, ht, same⟩ := List.any_eq_true.mp known
      exact ⟨t, ht, of_decide_eq_true same⟩
    · exact h.checkpointTask old before
  · intro k' among
    rcases mem_upsert among with old | ⟨rfl, _⟩ | ⟨old, _, _, rfl⟩
    · exact h.checkpointRow k' old
    · exact ⟨k, parseCheckpointRow_params taskId fits⟩
    · exact ⟨k, parseCheckpointRow_params taskId fits⟩

end WellFormed

namespace Connection

variable {c : Connection} {task : Task}

theorem saveTask_written (h : (c.saveTask task).1 = .ok ()) :
    ∃ projectId row, taskParams task projectId = .ok row ∧
      c.database.upsertTask row = .ok (c.saveTask task).2.database := by
  unfold saveTask at h ⊢
  have looked := projectFor_same task.id.asStr c
  cases hp : c.projectFor task.id.asStr with
  | mk r d =>
    rw [hp] at looked h
    cases r with
    | error e => cases h
    | ok projectId =>
      dsimp only at h ⊢
      cases params : taskParams task projectId with
      | error e => simp [params] at h
      | ok row =>
        simp only [params] at h ⊢
        cases he : d.execute (Database.upsertTask row) with
        | mk r' d' =>
          cases r' with
          | error e => simp [he] at h
          | ok u =>
            have change := (execute_ok he).1
            rw [looked.database] at change
            exact ⟨projectId, row, params, change⟩

end Connection

/-- Saves keep a store well formed, whichever statements fail. -/
theorem step_wellFormed {c c' : Connection} {call : StoreCall} {o : StoreOutput}
    (h : WellFormed c.database) (step : store.step c call = some (c', o)) :
    WellFormed c'.database := by
  obtain ⟨rfl, _⟩ := Prod.mk.inj (Option.some.inj step)
  cases call with
  | saveProject p =>
    have stored : ∃ row ∈ (c.database.putProject p).projects, row.id = .text p.id.asStr :=
      ⟨projectParams p, List.mem_of_find?_eq_some (Database.findProject_putProject p c.database), rfl⟩
    change WellFormed (c.saveProject p).2.database
    rcases saveProject_writes p c with ⟨_, db⟩ | ⟨_, db⟩ | ⟨_, db⟩
    · rw [db]
      exact h
    · rw [db]
      exact h.putProject p
    · rw [db]
      exact (h.putProject p).point stored
  | saveTask t =>
    change WellFormed (c.saveTask t).2.database
    rcases c.saveTask_cases t with ⟨_, _, same⟩ | ⟨_, _, _, saved, _⟩
    · rw [same.database]
      exact h
    · obtain ⟨projectId, row, params, written⟩ := Connection.saveTask_written saved
      exact h.task params written
  | saveCheckpoint taskId k =>
    change WellFormed (c.saveCheckpoint taskId k).2.database
    rcases c.saveCheckpoint_cases taskId k with ⟨_, _, same⟩ | ⟨ts, fits, _, written⟩
    · rw [same.database]
      exact h
    · exact h.checkpoint fits written

theorem run_wellFormed {failure : Nat → Option String} {c : Connection}
    {tr : List (StoreCall × StoreOutput)}
    (run : store.Run Machine.anyStep ⟨Database.empty,failure,0⟩ tr c) : WellFormed c.database :=
  run.invariant (I := fun c => WellFormed c.database) .empty
    fun _ _ _ _ h _ step => step_wellFormed h step

namespace WellFormed

variable {db : Database}

/-- The rows of the projects have texts as ids. -/
theorem text_id (h : WellFormed db) {row : ProjectRow} (among : row ∈ db.projects) :
    ∃ id, row.id = .text id := by
  obtain ⟨p, parsed⟩ := h.projectRow row among
  cases hid : row.id with
  | text s => exact ⟨s, rfl⟩
  | _ => simp [parseProjectRow, hid, Value.getText, Except.mapError, bind, Except.bind] at parsed

/-- A task finds a project to be saved in, and the foreign key holds. -/
theorem projectFor (h : WellFormed db) (nonempty : db.projects ≠ []) (taskId : String) :
    ∃ id, db.projectFor taskId = .ok id ∧
      ((∃ row, db.findTask taskId = some row) ∨ ∃ p ∈ db.projects, p.id = .text id) := by
  unfold Database.projectFor Database.projectIdOfTask
  cases found : db.findTask taskId with
  | some row =>
    obtain ⟨p, hp, same⟩ := h.taskProject row (List.mem_of_find?_eq_some found)
    obtain ⟨id, text⟩ := h.text_id hp
    refine ⟨id, ?_, .inl ⟨row, rfl⟩⟩
    rw [same] at text
    simp [firstRow, text]
  | none =>
    unfold Database.lastActiveProjectId
    cases pointer : db.sessionMetadata.find? fun r => r.key = .text "last_active_project_id" with
    | some row =>
      have named : row.key = .text "last_active_project_id" := by
        simpa using List.find?_some pointer
      obtain ⟨p, hp, same⟩ := h.pointer row (List.mem_of_find?_eq_some pointer) named
      obtain ⟨id, text⟩ := h.text_id hp
      refine ⟨id, ?_, .inr ⟨p, hp, text⟩⟩
      rw [same] at text
      simp [firstRow, text]
    | none =>
      unfold Database.newestProjectId
      cases newest : db.projects.getLast? with
      | none => exact absurd (List.getLast?_eq_none_iff.mp newest) nonempty
      | some row =>
        have hp := List.mem_of_getLast? newest
        obtain ⟨id, text⟩ := h.text_id hp
        refine ⟨id, ?_, .inr ⟨row, hp, text⟩⟩
        simp [firstRow, text, Except.mapError]

end WellFormed

namespace Connection

variable {c : Connection}

theorem execute_statements (change : Database → Except String Database) (c : Connection) :
    (c.execute change).2.statements = c.statements + 1 := by
  unfold execute
  cases c.failure c.statements with
  | some message => rfl
  | none => cases change c.database <;> rfl

theorem projectFor_statements (taskId : String) (c : Connection) :
    c.statements ≤ (c.projectFor taskId).2.statements := by
  unfold projectFor
  have first := query_statements (Database.projectIdOfTask taskId) c
  cases h : c.query (Database.projectIdOfTask taskId) with
  | mk r d =>
    have first : d.statements = c.statements + 1 := by rwa [h] at first
    cases r with
    | ok pid =>
      change c.statements ≤ d.statements
      omega
    | error e =>
      have second := query_statements Database.lastActiveProjectId d
      dsimp only
      cases h' : d.query Database.lastActiveProjectId with
      | mk r' d' =>
        have second : d'.statements = d.statements + 1 := by rwa [h'] at second
        cases r' with
        | ok pid =>
          change c.statements ≤ d'.statements
          omega
        | error e =>
          have third := query_statements Database.newestProjectId d'
          dsimp only
          cases h'' : d'.query Database.newestProjectId with
          | mk r'' d'' =>
            have third : d''.statements = d'.statements + 1 := by rwa [h''] at third
            have all : c.statements ≤ d''.statements := by omega
            cases r'' <;> exact all

theorem saveTask_statements (task : Task) (c : Connection) :
    c.statements ≤ (c.saveTask task).2.statements := by
  unfold saveTask
  have looked := projectFor_statements task.id.asStr c
  cases hp : c.projectFor task.id.asStr with
  | mk r d =>
    have looked : c.statements ≤ d.statements := by rwa [hp] at looked
    cases r with
    | error e => exact looked
    | ok projectId =>
      dsimp only
      cases taskParams task projectId with
      | error e => exact looked
      | ok row =>
        have wrote := execute_statements (Database.upsertTask row) d
        dsimp only
        cases he : d.execute (Database.upsertTask row) with
        | mk r' d' =>
          have wrote : d'.statements = d.statements + 1 := by rwa [he] at wrote
          have all : c.statements ≤ d'.statements := by omega
          cases r' <;> exact all

/-- A task is saved in a healthy store with a project exactly if its columns can be written. -/
theorem saveTask_ok_iff (task : Task) (h : WellFormed c.database) (nonempty : c.database.projects ≠ [])
    (healthy : ∀ i, c.statements ≤ i → c.failure i = none) :
    (c.saveTask task).1 = .ok () ↔ ∀ val ∈ u64Limits task.budget, val.toNat ≤ 0x7fffffffffffffff := by
  constructor
  · intro saved
    obtain ⟨projectId, row, params, _⟩ := saveTask_written saved
    exact (taskParams_ok_iff task projectId).mp ⟨row, params⟩
  · intro fits
    obtain ⟨projectId, chosen, key⟩ := h.projectFor nonempty task.id.asStr
    obtain ⟨row, params⟩ := (taskParams_ok_iff task projectId).mpr fits
    have sound : c.Sound (c.projectFor task.id.asStr).2 := fun i first _ => healthy i first
    have found := projectFor_sound task.id.asStr sound
    have looked := projectFor_same task.id.asStr c
    have later := projectFor_statements task.id.asStr c
    have checked : ((c.database.tasks.any fun r => r.id = row.id) ||
        c.database.projects.any fun p => p.id = row.projectId) = true := by
      rw [taskParams_id params, Bool.or_eq_true, List.any_eq_true, List.any_eq_true]
      rcases key with ⟨old, there⟩ | ⟨p, hp, same⟩
      · refine .inl ⟨old, List.mem_of_find?_eq_some there, ?_⟩
        simpa using List.find?_some there
      · obtain ⟨_, _, _, _, _, _, _, _, _, _, rfl⟩ := taskParams_ok params
        exact .inr ⟨p, hp, decide_eq_true same⟩
    rw [chosen] at found
    unfold saveTask
    cases hp : c.projectFor task.id.asStr with
    | mk r d =>
      rw [hp] at found looked later
      obtain rfl : r = .ok projectId := found
      have tables : d.database = c.database := looked.database
      have next : d.failure d.statements = none := by
        rw [show d.failure = c.failure from looked.failure]
        exact healthy _ later
      simp only [params, execute, next, Database.upsertTask, tables, if_pos checked]

end Connection

/-- Budgets are stored exactly or refused. In a healthy store with a project, reached by any saves
whose statements failed or not, the save of a task fails exactly if one of its limits exceeds
`i64::MAX`, and then leaves every row; otherwise the task is loaded with its budget. -/
theorem budget_stored_or_refused {failure : Nat → Option String} {c : Connection}
    {tr : List (StoreCall × StoreOutput)}
    (run : store.Run Machine.anyStep ⟨Database.empty,failure,0⟩ tr c)
    (project : c.database.projects ≠ []) (healthy : ∀ i, c.statements ≤ i → c.failure i = none)
    (task : Task) :
    let saved := StateRepository.saveTask task (⟨c,false⟩ : SqliteStateRepository)
    ((∃ e, saved.1 = .error e) ↔ ∃ val ∈ u64Limits task.budget, 0x7fffffffffffffff < val.toNat) ∧
    ((∃ e, saved.1 = .error e) → saved.2.connection.database = c.database) ∧
    (saved.1 = .ok () → ∃ loaded,
      (StateRepository.loadTask task.id.asStr saved.2).1 = .ok (some loaded) ∧
        loaded.budget = task.budget ∧
        (loaded.budget.maxPromptTokens.isSome = loaded.budget.maxCompletionTokens.isSome ∧
          loaded.budget.maxCompletionTokens.isSome = loaded.budget.maxCostMicros.isSome)) := by
  have wellFormed := run_wellFormed run
  have fits := Connection.saveTask_ok_iff task wellFormed project healthy
  intro saved
  have result : saved.1 = (c.saveTask task).1 := rfl
  have tables : saved.2.connection = (c.saveTask task).2 := rfl
  refine ⟨?_, ?_, ?_⟩
  · rw [result]
    have refused : (∃ e, (c.saveTask task).1 = .error e) ↔ ¬ (c.saveTask task).1 = .ok () := by
      cases (c.saveTask task).1 <;> simp
    rw [refused, fits]
    simp only [not_forall, Nat.not_le, exists_prop]
  · rintro ⟨e, failed⟩
    rw [tables]
    rcases c.saveTask_cases task with ⟨_, _, same⟩ | ⟨_, _, _, ok, _⟩
    · exact same.database
    · rw [result, ok] at failed
      cases failed
  · intro ok
    have next : saved.2.connection.failure saved.2.connection.statements = none := by
      rw [tables]
      rcases c.saveTask_cases task with ⟨_, failed, _⟩ | ⟨_, _, _, _, _, failure, _⟩
      · rw [result, failed] at ok
        cases ok
      · rw [failure]
        exact healthy _ (c.saveTask_statements task)
    have loaded : StateRepository.loadTask task.id.asStr saved.2 = _ :=
      loadTask_of_saveTask (Prod.ext ok rfl) next
    exact ⟨reloaded task, congrArg Prod.fst loaded, rfl, limits_together task.budget⟩

/-- A task with some memory and some prompt tokens to use. -/
def withLimits (mem prompt : UInt64) (hmem : mem ≠ 0) (hprompt : prompt ≠ 0) : Task :=
  { draft with
    budget := ⟨mem,mem,65535,some prompt,some prompt,some prompt,hmem,hmem,by decide,
      ⟨hprompt,hprompt,hprompt⟩⟩ }

/-- The largest limit that fits is stored, the next one is refused. -/
theorem budget_stored_or_refused_limit :
    ∃ tr c, store.Run Machine.anyStep ⟨Database.empty,fun _ => none,0⟩ tr c ∧
      (∃ e, (StateRepository.saveTask (withLimits 1 0x8000000000000000 (by decide) (by decide))
        (⟨c,false⟩ : SqliteStateRepository)).1 = .error e) ∧
      ∃ loaded, (StateRepository.loadTask "t" (StateRepository.saveTask
          (withLimits 0x7fffffffffffffff 1 (by decide) (by decide))
          (⟨c,false⟩ : SqliteStateRepository)).2).1 = .ok (some loaded) ∧
        loaded.budget.maxMemoryBytes = 0x7fffffffffffffff := by
  have run : store.Run Machine.anyStep ⟨Database.empty,fun _ => none,0⟩ _ _ :=
    .one (a := StoreCall.saveProject plainProject) trivial (store_step _ _)
  have refused := budget_stored_or_refused run (by decide +kernel) (fun _ _ => rfl)
    (withLimits 1 0x8000000000000000 (by decide) (by decide))
  have stored := budget_stored_or_refused run (by decide +kernel) (fun _ _ => rfl)
    (withLimits 0x7fffffffffffffff 1 (by decide) (by decide))
  obtain ⟨loaded, read, same, _⟩ := stored.2.2 (by decide +kernel)
  exact ⟨_, _, run, refused.1.mpr (by decide +kernel), loaded, read,
    congrArg ResourceBudget.maxMemoryBytes same⟩

end Kesharon.Daemon

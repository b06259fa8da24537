import Kesharon.Daemon.StoreHistory

namespace Kesharon.Daemon

open Framework Framework.Sql Framework.Log Domain Application

/-- What `list_checkpoints` reads where no statement fails. -/
def Database.checkpoints (taskId : String) (db : Database) :
    Except ApplicationError (List TaskCheckpoint) :=
  (db.checkpointsOf taskId).mapM parseCheckpointRow

def Write.checkpointVersion (taskId id : String) : Write → Option TaskCheckpoint
  | .checkpoint t k => if t = taskId ∧ k.id.text = id then some k else none
  | _ => none

/-- The last version saved of a checkpoint of a task. -/
def History.lastCheckpoint (taskId id : String) (log : History) : Option TaskCheckpoint :=
  log.findSome? (Write.checkpointVersion taskId id)

/-- No checkpoint of the same id has been saved for another task. -/
def StoreCall.KeepsTask (c : Connection) (call : StoreCall) (_ : Connection) : Prop :=
  match call with
  | .saveCheckpoint taskId k => ∀ row ∈ c.database.taskCheckpoints, row.id = .text k.id.text →
    row.taskId = .text taskId
  | _ => True

/-- The rows are the last versions of the checkpoints, each under the task it was saved for. -/
structure HoldsCheckpoints (log : History) (db : Database) : Prop where
  keys : (db.taskCheckpoints.map CheckpointRow.id).Nodup
  rows : ∀ row, row ∈ db.taskCheckpoints ↔ ∃ taskId k ts,
    log.lastCheckpoint taskId (TaskCheckpoint.id k).text = some k ∧
      i64FromU64 k.timestampMillis = .ok ts ∧ row = checkpointParams k taskId ts
  fits : ∀ taskId id k, log.lastCheckpoint taskId id = some k → k.id.text = id ∧
    ∃ ts, i64FromU64 k.timestampMillis = .ok ts
  tasks : ∀ row ∈ db.taskCheckpoints, ∃ task ∈ db.tasks, task.id = row.taskId

namespace Connection

theorem listCheckpoints_sound {c : Connection} (taskId : String)
    (h : Sound c (c.listCheckpoints taskId).2) :
    (c.listCheckpoints taskId).1 = c.database.checkpoints taskId := by
  have read := query_sound (c := c) fun db => .ok (db.checkpointsOf taskId)
  unfold listCheckpoints at h ⊢
  cases hq : c.query fun db => .ok (db.checkpointsOf taskId) with
  | mk r d =>
    rw [hq] at read h
    have read := read (by cases r <;> exact h)
    obtain rfl : r = .ok (c.database.checkpointsOf taskId) := read
    rfl

end Connection

section Saves

variable {log : History} {db db' : Database}

theorem lastCheckpoint_other {w : Write} (h : ∀ taskId k, w ≠ .checkpoint taskId k)
    (taskId id : String) :
    History.lastCheckpoint taskId id (w :: log) = log.lastCheckpoint taskId id := by
  cases w with
  | checkpoint t k => exact absurd rfl (h t k)
  | _ => rfl

/-- A write of something else that keeps the checkpoints and loses no task. -/
theorem HoldsCheckpoints.other (h : HoldsCheckpoints log db) {w : Write}
    (other : ∀ taskId k, w ≠ .checkpoint taskId k)
    (kept : db'.taskCheckpoints = db.taskCheckpoints)
    (tasks : ∀ row ∈ db.tasks, ∃ row' ∈ db'.tasks, row'.id = row.id) :
    HoldsCheckpoints (w :: log) db' := by
  constructor
  · rw [kept]
    exact h.keys
  · intro row
    simp only [kept, lastCheckpoint_other other]
    exact h.rows row
  · intro taskId id k
    rw [lastCheckpoint_other other]
    exact h.fits taskId id k
  · intro row among
    rw [kept] at among
    obtain ⟨task, there, same⟩ := h.tasks row among
    obtain ⟨task', stays, id⟩ := tasks task there
    exact ⟨task', stays, id.trans same⟩

variable {taskId : String} {k : TaskCheckpoint} {ts : Int64}

/-- An upsert that finds its key, if it does, under the same task. -/
def KeepsKey (db : Database) (taskId : String) (k : TaskCheckpoint) : Prop :=
  ∀ row ∈ db.taskCheckpoints, row.id = .text k.id.text → row.taskId = .text taskId

theorem mem_upsertCheckpoint (h : HoldsCheckpoints log db) (keeps : KeepsKey db taskId k)
    (ts : Int64) (row : CheckpointRow) :
    row ∈ upsert CheckpointRow.id Database.mergeCheckpoint (checkpointParams k taskId ts)
        db.taskCheckpoints ↔
      row = checkpointParams k taskId ts ∨
        row ∈ db.taskCheckpoints ∧ row.id ≠ .text k.id.text := by
  apply mem_upsert_iff h.keys
  intro old among same
  have task := keeps old among same
  simp [Database.mergeCheckpoint, task, checkpointParams]

theorem lastCheckpoint_self (taskId : String) (k : TaskCheckpoint) (log : History) :
    History.lastCheckpoint taskId k.id.text (.checkpoint taskId k :: log) = some k := by
  simp [History.lastCheckpoint, Write.checkpointVersion]

theorem lastCheckpoint_ne {taskId' id : String} (h : ¬ (taskId = taskId' ∧ k.id.text = id)) :
    History.lastCheckpoint taskId' id (.checkpoint taskId k :: log) =
      log.lastCheckpoint taskId' id := by
  simp [History.lastCheckpoint, Write.checkpointVersion, h]

theorem HoldsCheckpoints.save (h : HoldsCheckpoints log db) (keeps : KeepsKey db taskId k)
    (fits : i64FromU64 k.timestampMillis = .ok ts)
    (change : db.upsertCheckpoint (checkpointParams k taskId ts) = .ok db') :
    HoldsCheckpoints (.checkpoint taskId k :: log) db' := by
  unfold Database.upsertCheckpoint at change
  split_ifs at change with allowed
  obtain rfl := Except.ok.inj change
  have table := mem_upsertCheckpoint h keeps ts
  refine ⟨?_, ?_, ?_, ?_⟩
  · have same (row : CheckpointRow) : (Database.mergeCheckpoint row
        (checkpointParams k taskId ts)).id = (checkpointParams k taskId ts).id := rfl
    dsimp only
    rw [map_key_upsert same]
    split_ifs with known
    · exact h.keys
    · exact List.nodup_append.mpr ⟨h.keys, by simp, by
        intro a among b last
        obtain rfl := List.mem_singleton.mp last
        rintro rfl
        exact known among⟩
  · intro row
    rw [table row]
    constructor
    · rintro (rfl | ⟨old, other⟩)
      · exact ⟨taskId, k, ts, lastCheckpoint_self taskId k log, fits, rfl⟩
      · obtain ⟨t, k', ts', last, fits', rfl⟩ := (h.rows row).mp old
        refine ⟨t, k', ts', ?_, fits', rfl⟩
        rw [lastCheckpoint_ne]
        · exact last
        · rintro ⟨-, same⟩
          exact other (congrArg Value.text same.symm)
    · rintro ⟨t, k', ts', last, fits', rfl⟩
      by_cases here : taskId = t ∧ k.id.text = k'.id.text
      · obtain ⟨rfl, same⟩ := here
        rw [← same, lastCheckpoint_self] at last
        obtain rfl := Option.some.inj last
        rw [fits] at fits'
        rw [Except.ok.inj fits']
        exact .inl rfl
      · rw [lastCheckpoint_ne here] at last
        have old := (h.rows _).mpr ⟨t, k', ts', last, fits', rfl⟩
        refine .inr ⟨old, ?_⟩
        intro same
        have task := keeps _ old same
        exact here ⟨(Value.text.inj task).symm, (Value.text.inj same).symm⟩
  · intro t id k' last
    by_cases here : taskId = t ∧ k.id.text = id
    · obtain ⟨rfl, rfl⟩ := here
      rw [lastCheckpoint_self] at last
      obtain rfl := Option.some.inj last
      exact ⟨rfl, ts, fits⟩
    · rw [lastCheckpoint_ne here] at last
      exact h.fits t id k' last
  · intro row among
    rcases (table row).mp among with rfl | ⟨old, _⟩
    · rcases Bool.or_eq_true_iff.mp allowed with conflict | existing
      · obtain ⟨old, there, same⟩ := List.any_eq_true.mp conflict
        have task := keeps old there (of_decide_eq_true same)
        obtain ⟨row', inside, id⟩ := h.tasks old there
        exact ⟨row', inside, id.trans task⟩
      · obtain ⟨row', inside, id⟩ := List.any_eq_true.mp existing
        exact ⟨row', inside, of_decide_eq_true id⟩
    · exact h.tasks row old

end Saves

section Steps

variable {c c' : Connection} {call : StoreCall} {o : StoreOutput} {log : History}

theorem step_holdsCheckpoints (h : HoldsCheckpoints log c.database) (ok : call.KeepsTask c c')
    (step : store.step c call = some (c', o)) :
    HoldsCheckpoints (o.writes ++ log) c'.database := by
  obtain ⟨rfl, rfl⟩ := Prod.mk.inj (Option.some.inj step)
  cases call with
  | saveProject p =>
    change HoldsCheckpoints (StoreCall.writes c (.saveProject p) ++ log)
      (c.saveProject p).2.database
    have same : ∀ row ∈ c.database.tasks, ∃ row' ∈ c.database.tasks, row'.id = row.id :=
      fun row among => ⟨row, among, rfl⟩
    rcases saveProject_writes p c with ⟨writes, db⟩ | ⟨writes, db⟩ | ⟨writes, db⟩
    · rw [writes, db]
      exact h
    · rw [writes, db]
      exact h.other (by simp) rfl same
    · rw [writes, db]
      have first : HoldsCheckpoints (.project p :: log) (c.database.putProject p) :=
        h.other (by simp) rfl same
      exact first.other (by simp) rfl same
  | saveTask t =>
    change HoldsCheckpoints (StoreCall.writes c (.saveTask t) ++ log) (c.saveTask t).2.database
    simp only [StoreCall.writes]
    rcases c.saveTask_cases t with ⟨e, failed, same⟩ | ⟨p, row, params, saved, db, _, _⟩
    · rw [failed, same.database]
      exact h
    · rw [saved, db]
      refine h.other (by simp) rfl ?_
      intro old among
      have same (old : TaskRow) : (Database.mergeTask old row).id = row.id := rfl
      have key : old.id ∈ c.database.tasks.map TaskRow.id := List.mem_map.mpr ⟨old, among, rfl⟩
      have kept : old.id ∈
          (upsert TaskRow.id Database.mergeTask row c.database.tasks).map TaskRow.id := by
        rw [map_key_upsert same]
        split_ifs
        · exact key
        · exact List.mem_append_left _ key
      exact List.mem_map.mp kept
  | saveCheckpoint taskId k =>
    change HoldsCheckpoints (StoreCall.writes c (.saveCheckpoint taskId k) ++ log)
      (c.saveCheckpoint taskId k).2.database
    simp only [StoreCall.writes]
    rcases c.saveCheckpoint_cases taskId k with ⟨e, failed, same⟩ | ⟨ts, fits, saved, change⟩
    · rw [failed, same.database]
      exact h
    · rw [saved]
      exact h.save ok fits change

theorem run_holdsCheckpoints {db : Database} {failure : Nat → Option String} {n : Nat}
    {tr : List (StoreCall × StoreOutput)} (fresh : db.taskCheckpoints = [])
    (run : store.Run (fun c call c' => call.KeepsTask c c') ⟨db,failure,n⟩ tr c) :
    HoldsCheckpoints (written tr) c.database := by
  apply run.history (P := fun tr c => HoldsCheckpoints (written tr) c.database)
  · refine ⟨?_, ?_, ?_, ?_⟩
    · simp [fresh]
    · simp [fresh, written, History.lastCheckpoint]
    · simp [written, History.lastCheckpoint]
    · simp [fresh]
  · intro tr c call c' o before ok step
    rw [written_snoc]
    exact step_holdsCheckpoints before ok step

end Steps

section Lists

/-- What `list_checkpoints` returns on a store, whoever reads it, where its statement does not
fail. -/
def Lists (db : Database) (taskId : String) (list : List TaskCheckpoint) : Prop :=
  ∀ reader : Connection, reader.database = db → reader.Sound (reader.listCheckpoints taskId).2 →
    (reader.listCheckpoints taskId).1 = .ok list

theorem lists_iff {db : Database} {taskId : String} {list : List TaskCheckpoint} :
    Lists db taskId list ↔ db.checkpoints taskId = .ok list := by
  constructor
  · intro lists
    have sound : (⟨db,fun _ => none,0⟩ : Connection).Sound
        ((⟨db,fun _ => none,0⟩ : Connection).listCheckpoints taskId).2 := fun _ _ _ => rfl
    have read := lists ⟨db,fun _ => none,0⟩ rfl sound
    rwa [Connection.listCheckpoints_sound taskId sound] at read
  · rintro read reader rfl sound
    rw [Connection.listCheckpoints_sound taskId sound, read]

variable {log : History} {db db' : Database}

/-- The rows of a task, by the checkpoints they stand for. -/
theorem HoldsCheckpoints.rows_of_task (h : HoldsCheckpoints log db) (taskId : String) :
    ∃ pairs : List (TaskCheckpoint × Int64),
      (db.taskCheckpoints.filter fun r => r.taskId = .text taskId) =
        pairs.map (fun p => checkpointParams p.1 taskId p.2) ∧
      ∀ p ∈ pairs, log.lastCheckpoint taskId p.1.id.text = some p.1 ∧
        i64FromU64 p.1.timestampMillis = .ok p.2 := by
  apply exists_map
  intro row among
  obtain ⟨among, task⟩ := List.mem_filter.mp among
  obtain ⟨t, k, ts, last, fits, rfl⟩ := (h.rows row).mp among
  have same : t = taskId := Value.text.inj (of_decide_eq_true task)
  subst same
  exact ⟨(k,ts), ⟨last, fits⟩, rfl⟩

/-- The rows of a task in the order of their timestamps, and what they are read as. -/
theorem checkpoints_of_pairs {taskId : String} {pairs : List (TaskCheckpoint × Int64)}
    (rows : (db.taskCheckpoints.filter fun r => r.taskId = .text taskId) =
      pairs.map fun p => checkpointParams p.1 taskId p.2)
    (fits : ∀ p ∈ pairs, i64FromU64 p.1.timestampMillis = .ok p.2) :
    db.checkpoints taskId = .ok ((pairs.mergeSort fun p q => p.2 ≤ q.2).map Prod.fst) := by
  have sorts : (pairs.mergeSort fun p q => p.2 ≤ q.2).map (fun p => checkpointParams p.1 taskId p.2) =
      (pairs.map fun p => checkpointParams p.1 taskId p.2).mergeSort
        fun a b => a.timestampMillis.le b.timestampMillis := by
    apply List.map_mergeSort
    intro p _ q _
    rfl
  unfold Database.checkpoints Database.checkpointsOf
  rw [rows, ← sorts]
  have fits : ∀ p ∈ pairs.mergeSort fun p q => p.2 ≤ q.2,
      parseCheckpointRow (checkpointParams p.1 taskId p.2) = .ok p.1 := by
    intro p among
    rw [List.mem_mergeSort] at among
    exact parseCheckpointRow_params taskId (fits p among)
  generalize (pairs.mergeSort fun p q => p.2 ≤ q.2) = sorted at fits
  induction sorted with
  | nil => rfl
  | cons p sorted ih =>
    have first := fits p (List.mem_cons_self ..)
    have rest := ih fun q among => fits q (List.mem_cons_of_mem _ among)
    rw [List.map_cons, List.mapM_cons, first, rest]
    rfl

theorem timestamps_le {a b : UInt64} {x y : Int64} (first : i64FromU64 a = .ok x)
    (second : i64FromU64 b = .ok y) (le : x ≤ y) : a ≤ b := by
  unfold i64FromU64 at first second
  split_ifs at first with small
  split_ifs at second with small'
  obtain rfl := Except.ok.inj first
  obtain rfl := Except.ok.inj second
  rw [Int64.le_iff_toInt_le, toInt_toInt64 small, toInt_toInt64 small'] at le
  rw [UInt64.le_iff_toNat_le]
  omega

/-- The list of a task: its last versions, each once, in the order of their timestamps. -/
theorem HoldsCheckpoints.list (h : HoldsCheckpoints log db) (taskId : String) :
    ∃ list, db.checkpoints taskId = .ok list ∧
      list.Pairwise (fun a b => a.timestampMillis ≤ b.timestampMillis) ∧
      (list.map TaskCheckpoint.id).Nodup ∧
      ∀ k, k ∈ list ↔ log.lastCheckpoint taskId k.id.text = some k := by
  obtain ⟨pairs, rows, known⟩ := h.rows_of_task taskId
  have members (p : TaskCheckpoint × Int64) :
      p ∈ (pairs.mergeSort fun p q => p.2 ≤ q.2) ↔ p ∈ pairs := List.mem_mergeSort
  refine ⟨_, checkpoints_of_pairs rows fun p among => (known p among).2, ?_, ?_, ?_⟩
  · have sorted : (pairs.mergeSort fun p q => p.2 ≤ q.2).Pairwise fun p q => decide (p.2 ≤ q.2) := by
      apply List.pairwise_mergeSort
      · simpa using fun _ a _ b _ c => Int64.le_trans
      · simpa using fun _ a _ b => Int64.le_total a b
    rw [List.pairwise_map]
    refine sorted.imp_of_mem ?_
    intro p q first second le
    have first := (known p ((members p).mp first)).2
    have second := (known q ((members q).mp second)).2
    exact timestamps_le first second (of_decide_eq_true le)
  · have keys : ((db.taskCheckpoints.filter fun r => r.taskId = .text taskId).map
        CheckpointRow.id).Nodup := by
      apply List.Nodup.sublist _ h.keys
      exact List.Sublist.map _ List.filter_sublist
    rw [rows, List.map_map] at keys
    have perm := List.mergeSort_perm pairs fun p q => p.2 ≤ q.2
    have texts := (perm.map _).nodup_iff.mpr keys
    rw [List.map_map]
    apply List.Nodup.of_map fun id => Value.text id.text
    rw [List.map_map]
    exact texts
  · intro k
    constructor
    · intro among
      obtain ⟨p, there, rfl⟩ := List.mem_map.mp among
      exact (known p ((members p).mp there)).1
    · intro last
      obtain ⟨-, ts, fits⟩ := h.fits taskId k.id.text k last
      have row : checkpointParams k taskId ts ∈
          db.taskCheckpoints.filter fun r => r.taskId = .text taskId := by
        rw [List.mem_filter]
        exact ⟨(h.rows _).mpr ⟨taskId, k, ts, last, fits, rfl⟩, decide_eq_true rfl⟩
      rw [rows] at row
      obtain ⟨p, there, same⟩ := List.mem_map.mp row
      have read := parseCheckpointRow_params taskId (known p there).2
      rw [same, parseCheckpointRow_params taskId fits] at read
      exact List.mem_map.mpr ⟨p, (members p).mpr there, (Except.ok.inj read).symm⟩

/-- A save leaves the lists of the other tasks alone. -/
theorem checkpoints_other {taskId other : String} {k : TaskCheckpoint} {ts : Int64}
    (keeps : KeepsKey db taskId k) (ne : other ≠ taskId)
    (change : db.upsertCheckpoint (checkpointParams k taskId ts) = .ok db') :
    db'.checkpoints other = db.checkpoints other := by
  unfold Database.upsertCheckpoint at change
  split_ifs at change
  obtain rfl := Except.ok.inj change
  have out : ∀ task : Value, task = .text taskId → decide (task = .text other) = false := by
    rintro _ rfl
    apply decide_eq_false
    intro same
    exact ne (Value.text.inj same).symm
  unfold Database.checkpoints Database.checkpointsOf
  dsimp only
  have kept : (upsert CheckpointRow.id Database.mergeCheckpoint (checkpointParams k taskId ts)
      db.taskCheckpoints).filter (fun r => r.taskId = .text other) =
      db.taskCheckpoints.filter fun r => r.taskId = .text other := by
    apply filter_upsert
    · exact out _ rfl
    · intro row among same
      have task := keeps row among same
      exact ⟨out _ task, out _ task⟩
  rw [kept]

end Lists

/-- Checkpoints belong to the task they were saved for. Starting from a store without checkpoints,
in a run that never saves a checkpoint under an id that another task has, whatever else is saved
and whichever writing statements fail: the list of a task is sorted and holds the last version of
each checkpoint saved for it, and a save that succeeds puts its checkpoint, once, on the list of
its task, which exists, and on no other. -/
theorem checkpoints_belong {db : Database} {failure : Nat → Option String} {n : Nat}
    {tr : List (StoreCall × StoreOutput)} {c : Connection} (fresh : db.taskCheckpoints = [])
    (run : store.Run (fun c call c' => call.KeepsTask c c') ⟨db,failure,n⟩ tr c) :
    (∀ taskId, ∃ list, Lists c.database taskId list ∧
      list.Pairwise (fun a b => a.timestampMillis ≤ b.timestampMillis) ∧
      (list.map TaskCheckpoint.id).Nodup ∧
      ∀ k, k ∈ list ↔ (written tr).lastCheckpoint taskId k.id.text = some k) ∧
    ∀ taskId k c' o, StoreCall.KeepsTask c (.saveCheckpoint taskId k) c' →
      store.step c (.saveCheckpoint taskId k) = some (c', o) → o.result = .ok () →
      (∃ list, Lists c'.database taskId list ∧ list.filter (fun k' => k'.id = k.id) = [k]) ∧
      (∀ other list, other ≠ taskId → Lists c.database other list → Lists c'.database other list) ∧
      ∃ task ∈ c.database.tasks, task.id = .text taskId := by
  have holds := run_holdsCheckpoints fresh run
  constructor
  · intro taskId
    obtain ⟨list, read, rest⟩ := holds.list taskId
    exact ⟨list, lists_iff.mpr read, rest⟩
  · intro taskId k c' o keeps step saved
    have holds' := step_holdsCheckpoints holds keeps step
    obtain ⟨rfl, rfl⟩ := Prod.mk.inj (Option.some.inj step)
    change (c.saveCheckpoint taskId k).1 = .ok () at saved
    rcases c.saveCheckpoint_cases taskId k with ⟨e, failed, _⟩ | ⟨ts, fits, _, change⟩
    · rw [saved] at failed
      cases failed
    · refine ⟨?_, ?_, ?_⟩
      · obtain ⟨list, read, -, unique, members⟩ := holds'.list taskId
        refine ⟨list, lists_iff.mpr read, ?_⟩
        have among : k ∈ list := by
          rw [members]
          simp [StoreCall.writes, saved, lastCheckpoint_self]
        exact filter_key_of_mem unique among
      · intro other list ne before
        rw [lists_iff] at before ⊢
        exact (checkpoints_other keeps ne change).trans before
      · unfold Database.upsertCheckpoint at change
        split_ifs at change with allowed
        rcases Bool.or_eq_true_iff.mp allowed with conflict | existing
        · obtain ⟨old, there, same⟩ := List.any_eq_true.mp conflict
          have task := keeps old there (of_decide_eq_true same)
          obtain ⟨row, inside, id⟩ := holds.tasks old there
          exact ⟨row, inside, id.trans task⟩
        · obtain ⟨row, inside, id⟩ := List.any_eq_true.mp existing
          exact ⟨row, inside, of_decide_eq_true id⟩

instance (c : Connection) (call : StoreCall) (c' : Connection) :
    Decidable (call.KeepsTask c c') :=
  match call with
  | .saveCheckpoint taskId k => inferInstanceAs (Decidable (∀ row ∈ c.database.taskCheckpoints,
      row.id = .text k.id.text → row.taskId = .text taskId))
  | .saveProject _ | .saveTask _ => .isTrue trivial

/-- A version of a checkpoint. -/
def plainCheckpoint (gitRef : String) (h : isBlank gitRef = false) : TaskCheckpoint :=
  ⟨⟨"c",by decide⟩,⟨"checkpoint",by decide⟩,⟨gitRef,h⟩,1⟩

/-- A checkpoint saved again is listed in its last version. -/
theorem checkpoints_belong_again :
    ∃ tr c list, store.Run (fun c call c' => call.KeepsTask c c')
        ⟨Database.empty,fun _ => none,0⟩ tr c ∧
      Lists c.database "t" list ∧ plainCheckpoint "second" (by decide) ∈ list := by
  have run := Machine.run_of_exec_isSome store (fun c call c' => call.KeepsTask c c')
    ⟨Database.empty,fun _ => none,0⟩ [.saveProject plainProject,.saveTask draft,
      .saveCheckpoint "t" (plainCheckpoint "first" (by decide)),
      .saveCheckpoint "t" (plainCheckpoint "second" (by decide))] (by decide +kernel)
  obtain ⟨list, read, _, _, members⟩ := (checkpoints_belong rfl run).1 "t"
  exact ⟨_, _, list, run, read, (members _).mpr (by decide +kernel)⟩

/-- A checkpoint saved for a task that does not exist overwrites the one of its id, which stays on
the list of its own task. -/
theorem checkpoint_taken_over :
    ∃ tr c c' o, store.Run Machine.anyStep ⟨Database.empty,fun _ => none,0⟩ tr c ∧
      store.step c (.saveCheckpoint "nobody" (plainCheckpoint "second" (by decide))) =
        some (c', o) ∧
      o.result = .ok () ∧ Lists c.database "t" [plainCheckpoint "first" (by decide)] ∧
      Lists c'.database "t" [plainCheckpoint "second" (by decide)] ∧
      Lists c'.database "nobody" [] ∧ ∀ task ∈ c.database.tasks, task.id ≠ .text "nobody" := by
  have run := Machine.run_of_exec_isSome store Machine.anyStep
    ⟨Database.empty,fun _ => none,0⟩ [.saveProject plainProject,.saveTask draft,
      .saveCheckpoint "t" (plainCheckpoint "first" (by decide))] (by decide +kernel)
  refine ⟨_, _, _, _, run, store_step _ _, ?_, lists_iff.mpr ?_, lists_iff.mpr ?_,
    lists_iff.mpr ?_, ?_⟩ <;> decide +kernel

end Kesharon.Daemon

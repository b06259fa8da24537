import Kesharon.Daemon.Restart

namespace Kesharon.Daemon

open Framework Framework.Sql Domain Application

namespace Database

def pointerRow (db : Database) : Option MetadataRow :=
  db.sessionMetadata.find? fun r => r.key = .text "last_active_project_id"

def activeRow (projectId : String) (db : Database) : Option TaskRow :=
  db.tasks.reverse.find? fun r => r.projectId = .text projectId ∧ r.isActive = .integer 1

end Database

namespace Connection

/-- A connection so many statements later. -/
def skip (n : Nat) (c : Connection) : Connection := { c with statements := c.statements + n }

section Lookups

variable {ρ τ α ε : Type}

/-- The next statement fails, or what it finds cannot be read. -/
def fails (row : Option ρ) (read : ρ → Except ε α) (c : Connection) : Bool :=
  (c.failure c.statements).isSome || row.any fun r => !(read r).toBool

/-- How a lookup of one value ends. -/
inductive Lookup (row : Option ρ) (get : ρ → Except String α) (c : Connection) :
    Except String α → Prop where
  | failed (e : String) (fails : c.fails row get = true) : Lookup row get c (.error e)
  | absent (e : String) (sound : c.fails row get = false) (missing : row = none) :
      Lookup row get c (.error e)
  | found (x : α) (sound : c.fails row get = false) (value : firstRow get row = .ok x) :
      Lookup row get c (.ok x)

/-- How a load of one row ends. -/
inductive Load (row : Option ρ) (parse : ρ → Except ApplicationError α) (c : Connection) :
    Except ApplicationError (Option α) → Prop where
  | failed (e : ApplicationError) (fails : c.fails row parse = true) : Load row parse c (.error e)
  | absent (sound : c.fails row parse = false) (missing : row = none) : Load row parse c (.ok none)
  | found (r : ρ) (x : α) (sound : c.fails row parse = false) (here : row = some r)
      (value : parse r = .ok x) : Load row parse c (.ok (some x))

theorem query_lookup (row : Database → Option ρ) (get : ρ → Except String α) (c : Connection) :
    Lookup (row c.database) get c (c.query fun db => firstRow get (row db)).1 ∧
      (c.query fun db => firstRow get (row db)).2 = c.skip 1 := by
  unfold query
  cases failure : c.failure c.statements with
  | some message => exact ⟨.failed _ (by simp [fails, failure]), rfl⟩
  | none =>
    refine ⟨?_, rfl⟩
    dsimp only
    cases here : row c.database with
    | none => exact .absent _ (by simp [fails, failure]) rfl
    | some r =>
      cases value : get r with
      | error e =>
        have unread : firstRow get (some r) = .error e := value
        rw [unread]
        exact .failed e (by simp [fails, failure, value, Except.toBool])
      | ok x =>
        have read : firstRow get (some r) = .ok x := value
        rw [read]
        exact .found x (by simp [fails, failure, value, Except.toBool]) read

theorem loadRow_load (row : Database → Option ρ) (parse : ρ → Except ApplicationError α)
    (c : Connection) :
    Load (row c.database) parse c (loadRow row parse c).1 ∧ (loadRow row parse c).2 = c.skip 1 := by
  unfold loadRow
  unfold query
  cases failure : c.failure c.statements with
  | some message => exact ⟨.failed _ (by simp [fails, failure]), rfl⟩
  | none =>
    dsimp only
    cases here : row c.database with
    | none => exact ⟨.absent (by simp [fails, failure]) rfl, rfl⟩
    | some r =>
      refine ⟨?_, rfl⟩
      cases value : parse r with
      | error e =>
        simp only [value, Except.map]
        exact .failed e (by simp [fails, failure, value, Except.toBool])
      | ok x =>
        simp only [value, Except.map]
        exact .found r x (by simp [fails, failure, value, Except.toBool]) rfl value

/-- How a load ends whose key is looked up first. -/
inductive Through (key : Option ρ) (get : ρ → Except String String) (row : String → Option τ)
    (parse : τ → Except ApplicationError α) (c : Connection) :
    Except ApplicationError (Option α) × Connection → Prop where
  | failed (fails : c.fails key get = true) : Through key get row parse c (.ok none, c.skip 1)
  | absent (sound : c.fails key get = false) (missing : key = none) :
      Through key get row parse c (.ok none, c.skip 1)
  | through (id : String) (result : Except ApplicationError (Option α))
      (sound : c.fails key get = false) (value : firstRow get key = .ok id)
      (load : Load (row id) parse (c.skip 1) result) :
      Through key get row parse c (result, c.skip 2)

theorem loadThrough_outcome (key : Database → Option ρ) (get : ρ → Except String String)
    (row : String → Database → Option τ) {parse : τ → Except ApplicationError α}
    {load : String → Connection → Except ApplicationError (Option α) × Connection}
    (loads : ∀ id c, Load (row id c.database) parse c (load id c).1 ∧ (load id c).2 = c.skip 1)
    (c : Connection) :
    Through (key c.database) get (fun id => row id c.database) parse c
      (loadThrough (fun db => firstRow get (key db)) load c) := by
  obtain ⟨looked, next⟩ := query_lookup key get c
  unfold loadThrough
  cases hq : c.query fun db => firstRow get (key db) with
  | mk r d =>
    rw [hq] at looked next
    obtain rfl : d = c.skip 1 := next
    cases looked with
    | failed e fails => exact .failed fails
    | absent e sound missing => exact .absent sound missing
    | found id sound value =>
      obtain ⟨loaded, last⟩ := loads id (c.skip 1)
      dsimp only
      have split : load id (c.skip 1) = ((load id (c.skip 1)).1, c.skip 2) := by
        rw [← Prod.eta (load id (c.skip 1)), last]
        rfl
      rw [split]
      exact .through id _ sound value loaded

/-- A result that reports a failure, and absence only of what is absent. -/
structure Honest (failed absent : Prop) (result : Except ApplicationError (Option α)) : Prop where
  reports : failed → ∃ e, result = .error e
  absent : result = .ok none → absent

theorem load_honest {row : Option τ} {parse : τ → Except ApplicationError α} {c : Connection}
    {result : Except ApplicationError (Option α)} (h : Load row parse c result) :
    Honest (c.fails row parse = true) (row = none) result := by
  cases h with
  | failed e fails => exact ⟨fun _ => ⟨e, rfl⟩, nofun⟩
  | absent sound missing => exact ⟨by simp [sound], fun _ => missing⟩
  | found r x sound here value => exact ⟨by simp [sound], nofun⟩

/-- It is honest exactly where its lookup does not fail. -/
theorem through_honest {key : Option ρ} {get : ρ → Except String String}
    {row : String → Option τ} {parse : τ → Except ApplicationError α} {c : Connection}
    {r : Except ApplicationError (Option α) × Connection} (h : Through key get row parse c r) :
    Honest (c.fails key get = true ∨ ∃ id, firstRow get key = .ok id ∧
        (c.skip 1).fails (row id) parse = true)
      (key = none ∨ ∃ id, firstRow get key = .ok id ∧ row id = none) r.1 ↔
      c.fails key get = false := by
  cases h with
  | failed fails =>
    constructor
    · intro honest
      obtain ⟨e, absurd⟩ := honest.reports (.inl fails)
      cases absurd
    · intro sound
      rw [fails] at sound
      cases sound
  | absent sound missing =>
    refine ⟨fun _ => sound, fun _ => ⟨?_, fun _ => .inl missing⟩⟩
    rintro (fails | ⟨id, value, _⟩)
    · rw [sound] at fails
      cases fails
    · rw [missing] at value
      cases value
  | through id result sound value load =>
    have inner := load_honest load
    refine ⟨fun _ => sound, fun _ => ⟨?_, fun none => .inr ⟨id, value, inner.absent none⟩⟩⟩
    rintro (fails | ⟨id', value', fails⟩)
    · rw [sound] at fails
      cases fails
    · obtain rfl := Except.ok.inj (value.symm.trans value')
      exact inner.reports fails

end Lookups

section Loads

variable (c : Connection)

/-- The lookup of the last active project fails. -/
def pointerFails : Bool := c.fails c.database.pointerRow fun r => r.value.getText 0 "value"

/-- The lookup of a project's active task fails. -/
def activeFails (projectId : String) : Bool :=
  c.fails (c.database.activeRow projectId) fun r => r.id.getText 0 "id"

def projectFails (id : String) : Bool := c.fails (c.database.findProject id) parseProjectRow

def taskFails (id : String) : Bool := c.fails (c.database.findTask id) parseTaskRow

/-- A statement that `load_last_active_project` runs fails. -/
def lastActiveFails : Prop :=
  c.pointerFails = true ∨
    ∃ id, c.database.lastActiveProjectId = .ok id ∧ (c.skip 1).projectFails id = true

def activeTaskFails (projectId : String) : Prop :=
  c.activeFails projectId = true ∨
    ∃ id, c.database.activeTaskId projectId = .ok id ∧ (c.skip 1).taskFails id = true

theorem loadProject_load (id : String) (c : Connection) :
    Load (c.database.findProject id) parseProjectRow c (c.loadProject id).1 ∧
      (c.loadProject id).2 = c.skip 1 := by
  rw [loadProject_eq]
  exact loadRow_load (Database.findProject id) parseProjectRow c

theorem loadTask_load (id : String) (c : Connection) :
    Load (c.database.findTask id) parseTaskRow c (c.loadTask id).1 ∧
      (c.loadTask id).2 = c.skip 1 := by
  rw [loadTask_eq]
  exact loadRow_load (Database.findTask id) parseTaskRow c

theorem loadLastActiveProject_through :
    Through c.database.pointerRow (fun r => r.value.getText 0 "value")
      (fun id => c.database.findProject id) parseProjectRow c c.loadLastActiveProject :=
  loadThrough_outcome Database.pointerRow _ Database.findProject loadProject_load c

theorem loadActiveTask_through (projectId : String) :
    Through (c.database.activeRow projectId) (fun r => r.id.getText 0 "id")
      (fun id => c.database.findTask id) parseTaskRow c (c.loadActiveTask projectId) :=
  loadThrough_outcome (Database.activeRow projectId) _ Database.findTask loadTask_load c

/-- The pointer names no project, or one without a row. -/
def NoLastActive : Prop :=
  c.database.pointerRow = none ∨
    ∃ id, c.database.lastActiveProjectId = .ok id ∧ c.database.findProject id = none

def NoActiveTask (projectId : String) : Prop :=
  c.database.activeRow projectId = none ∨
    ∃ id, c.database.activeTaskId projectId = .ok id ∧ c.database.findTask id = none

theorem loadLastActiveProject_honest :
    Honest c.lastActiveFails c.NoLastActive c.loadLastActiveProject.1 ↔ c.pointerFails = false :=
  through_honest c.loadLastActiveProject_through

theorem loadActiveTask_honest (projectId : String) :
    Honest (c.activeTaskFails projectId) (c.NoActiveTask projectId) (c.loadActiveTask projectId).1 ↔
      c.activeFails projectId = false :=
  through_honest (c.loadActiveTask_through projectId)

end Loads

section Recovery

variable (c : Connection)

/-- A statement that a recovery runs fails. -/
def recoveryFails : Prop :=
  c.lastActiveFails ∨ ∃ p, c.database.lastActiveProject = .ok (some p) ∧ ¬ c.lastActiveFails ∧
    (c.skip 2).activeTaskFails p.id.asStr

/-- A recovery that reports a failure, and the absence of a project or a task only where it is
absent. -/
structure HonestRecovery (result : Except ApplicationError RecoveredSession) : Prop where
  reports : c.recoveryFails → ∃ e, result = .error e
  project : ∀ task, result = .ok ⟨none,task⟩ → c.NoLastActive
  task : ∀ p, result = .ok ⟨some p,none⟩ → (c.skip 2).NoActiveTask p.id.asStr

/-- None of the lookups a recovery makes fails. -/
def lookupsSound : Prop :=
  c.pointerFails = false ∧ ∀ p, c.database.lastActiveProject = .ok (some p) → ¬ c.lastActiveFails →
    (c.skip 2).activeFails p.id.asStr = false

/-- How the first load of a recovery ends. -/
inductive FirstLoad : Except ApplicationError (Option Project) × Connection → Prop where
  | failed (fails : c.pointerFails = true) : FirstLoad (.ok none, c.skip 1)
  | error (e : ApplicationError) (d : Connection) (sound : c.pointerFails = false)
      (fails : c.lastActiveFails) : FirstLoad (.error e, d)
  | absent (d : Connection) (sound : c.pointerFails = false) (loads : ¬ c.lastActiveFails)
      (missing : c.NoLastActive) (value : c.database.lastActiveProject = .ok none) :
      FirstLoad (.ok none, d)
  | found (p : Project) (sound : c.pointerFails = false) (loads : ¬ c.lastActiveFails)
      (value : c.database.lastActiveProject = .ok (some p)) : FirstLoad (.ok (some p), c.skip 2)

theorem loadLastActiveProject_first : FirstLoad c c.loadLastActiveProject := by
  have loaded := c.loadLastActiveProject_through
  generalize hr : c.loadLastActiveProject = r at loaded
  cases loaded with
  | failed fails => exact .failed fails
  | absent sound missing =>
    have unread : c.database.lastActiveProjectId = .error "Query returned no rows" := by
      unfold Database.lastActiveProjectId
      change firstRow _ c.database.pointerRow = _
      rw [missing]
      rfl
    refine .absent _ sound ?_ (.inl missing) ?_
    · rintro (fails | ⟨id, value, _⟩)
      · simp only [pointerFails, sound, Bool.false_eq_true] at fails
      · rw [unread] at value
        cases value
    · unfold Database.lastActiveProject
      rw [unread]
  | through id result sound value load =>
    have named : c.database.lastActiveProjectId = .ok id := value
    have fails_iff : c.lastActiveFails ↔ (c.skip 1).projectFails id = true := by
      constructor
      · rintro (fails | ⟨id', named', fails⟩)
        · simp only [pointerFails, sound, Bool.false_eq_true] at fails
        · obtain rfl := Except.ok.inj (named.symm.trans named')
          exact fails
      · exact fun fails => .inr ⟨id, named, fails⟩
    have project : c.database.lastActiveProject = c.database.project id := by
      unfold Database.lastActiveProject
      rw [named]
    cases load with
    | failed e fails => exact .error e _ sound (fails_iff.mpr fails)
    | absent sound' missing =>
      refine .absent _ sound ?_ (.inr ⟨id, named, missing⟩) ?_
      · rw [fails_iff, projectFails]
        exact fun fails => absurd (sound'.symm.trans fails) (by simp)
      · rw [project, Database.project, missing]
    | found row p sound' here value =>
      refine .found p sound ?_ ?_
      · rw [fails_iff, projectFails]
        exact fun fails => absurd (sound'.symm.trans fails) (by simp)
      · rw [project, Database.project, here]
        change (parseProjectRow row).map some = _
        rw [value]
        rfl

theorem execute_eq :
    (SessionRecovery.execute (σ := SqliteStateRepository) ⟨c,false⟩).1 =
      match c.loadLastActiveProject with
      | (.error e, _) => .error e
      | (.ok none, _) => .ok ⟨none,none⟩
      | (.ok (some p), d) => (d.loadActiveTask p.id.asStr).1.map fun task => ⟨some p,task⟩ := by
  unfold SessionRecovery.execute
  simp only [StateRepository.loadLastActiveProject, StateRepository.loadActiveTask,
    SqliteStateRepository.withLock, Bool.false_eq_true, if_false]
  rcases c.loadLastActiveProject with ⟨e | (_ | p), d⟩
  · rfl
  · rfl
  · dsimp only
    rcases d.loadActiveTask p.id.asStr with ⟨_ | _, _⟩ <;> rfl

theorem execute_honest :
    c.HonestRecovery (SessionRecovery.execute (σ := SqliteStateRepository) ⟨c,false⟩).1 ↔
      c.lookupsSound := by
  have first := c.loadLastActiveProject_first
  rw [execute_eq]
  generalize hr : c.loadLastActiveProject = r at first
  cases first with
  | failed fails =>
    constructor
    · intro honest
      obtain ⟨e, absurd⟩ := honest.reports (.inl (.inl fails))
      cases absurd
    · rintro ⟨sound, _⟩
      rw [fails] at sound
      cases sound
  | error e d sound fails =>
    exact ⟨fun _ => ⟨sound, fun _ _ loads => absurd fails loads⟩, fun _ =>
      ⟨fun _ => ⟨e, rfl⟩, nofun, nofun⟩⟩
  | absent d sound loads missing value =>
    constructor
    · intro _
      refine ⟨sound, fun p found => ?_⟩
      rw [value] at found
      cases found
    · intro _
      refine ⟨?_, fun _ _ => missing, nofun⟩
      rintro (fails | ⟨p, found, _⟩)
      · exact absurd fails loads
      · rw [value] at found
        cases found
  | found p sound loads value =>
    have fails_iff : c.recoveryFails ↔ (c.skip 2).activeTaskFails p.id.asStr := by
      constructor
      · rintro (fails | ⟨p', found, _, fails⟩)
        · exact absurd fails loads
        · rw [value] at found
          cases found
          exact fails
      · exact fun fails => .inr ⟨p, value, loads, fails⟩
    have sound_iff : c.lookupsSound ↔ (c.skip 2).activeFails p.id.asStr = false := by
      constructor
      · rintro ⟨_, second⟩
        exact second p value loads
      · intro second
        refine ⟨sound, fun p' found _ => ?_⟩
        rw [value] at found
        cases found
        exact second
    rw [sound_iff, ← loadActiveTask_honest]
    dsimp only
    generalize ((c.skip 2).loadActiveTask p.id.asStr).1 = result
    constructor
    · intro honest
      refine ⟨fun fails => ?_, fun none => ?_⟩
      · obtain ⟨e, he⟩ := honest.reports (fails_iff.mpr fails)
        cases result with
        | error e => exact ⟨e, rfl⟩
        | ok task => cases he
      · rw [none] at honest
        exact honest.task p rfl
    · intro honest
      refine ⟨fun fails => ?_, fun task ends => ?_, fun p' ends => ?_⟩
      · obtain ⟨e, rfl⟩ := honest.reports (fails_iff.mp fails)
        exact ⟨e, rfl⟩
      · cases result <;> cases ends
      · cases result with
        | error e => cases ends
        | ok task =>
          cases ends
          exact honest.absent rfl

/-- The pointer names a project that has a row. -/
def hasLastActive : Prop :=
  ∃ pointer, c.database.pointerRow = some pointer ∧
    ∃ row ∈ c.database.projects, row.id = pointer.value

/-- A session starts empty over a last active project exactly where the pointer's lookup fails. -/
theorem withStorage_kept :
    (∀ w, World.withStorage (some ((⟨c,false⟩ : SqliteStateRepository), false)) = .ok w →
      c.hasLastActive → w.state.project ≠ none) ↔ ¬ (c.pointerFails = true ∧ c.hasLastActive) := by
  have first := c.loadLastActiveProject_first
  have executed := c.execute_eq
  generalize hr : c.loadLastActiveProject = r at first executed
  constructor
  · rintro kept ⟨fails, has⟩
    cases first with
    | failed _ => exact kept _ (withStorage_iff.mpr ⟨_, executed, rfl⟩) has rfl
    | error _ _ sound _ | absent _ sound _ _ _ | found _ sound _ _ =>
      rw [fails] at sound
      cases sound
  · intro sound w created has empty
    obtain ⟨recovered, ok, rfl⟩ := withStorage_iff.mp created
    rw [executed] at ok
    cases first with
    | failed fails => exact sound ⟨fails, has⟩
    | error e d _ _ => cases ok
    | absent d sound' _ missing _ =>
      obtain ⟨pointer, here, row, among, same⟩ := has
      rcases missing with absent | ⟨id, named, absent⟩
      · rw [here] at absent
        cases absent
      · have text : pointer.value = .text id := by
          have read : firstRow (fun r => r.value.getText 0 "value") c.database.pointerRow =
            .ok id := named
          rw [here] at read
          cases hv : pointer.value with
          | text s =>
            simp only [firstRow, hv, Value.getText_text, Except.ok.injEq] at read
            rw [read]
          | _ => simp [firstRow, hv, Value.getText] at read
        have never := List.find?_eq_none.mp absent row among
        rw [same, text] at never
        simp at never
    | found p _ _ _ =>
      cases hl : ((c.skip 2).loadActiveTask p.id.asStr).1 with
      | error e => simp [hl, Except.map] at ok
      | ok task =>
        simp only [hl, Except.map, Except.ok.injEq] at ok
        rw [← ok] at empty
        cases empty

end Recovery

section Placement

variable (c : Connection)

/-- How the choice of a task's project ends: its own, the last active one, or the newest. -/
inductive Choice (taskId : String) : Except ApplicationError String × Connection → Prop where
  | own (pid : String) (row : TaskRow) (here : c.database.findTask taskId = some row)
      (value : row.projectId = .text pid) : Choice taskId (.ok pid, c.skip 1)
  | pointed (pid : String) (pointer : MetadataRow) (here : c.database.pointerRow = some pointer)
      (sound : (c.skip 1).pointerFails = false) (value : pointer.value = .text pid) :
      Choice taskId (.ok pid, c.skip 2)
  | newest (pid : String)
      (unpointed : (c.skip 1).pointerFails = true ∨ c.database.pointerRow = none)
      (sound : c.failure (c.statements + 2) = none)
      (value : c.database.newestProjectId = .ok pid) : Choice taskId (.ok pid, c.skip 3)
  | nothing (e : ApplicationError) (d : Connection)
      (none : c.failure (c.statements + 2) = none → ∃ e, c.database.newestProjectId = .error e) :
      Choice taskId (.error e, d)

theorem text_of_getText {index : Nat} {name s : String} {v : Value}
    (h : v.getText index name = .ok s) : v = .text s := by
  cases v with
  | text t => rw [Except.ok.inj h]
  | _ => simp [Value.getText] at h

theorem projectFor_choice (taskId : String) : Choice c taskId (c.projectFor taskId) := by
  obtain ⟨own, next⟩ :=
    query_lookup (Database.findTask taskId) (fun r => r.projectId.getText 0 "project_id") c
  unfold projectFor
  cases h₁ : c.query (Database.projectIdOfTask taskId) with
  | mk r d =>
    change Lookup _ _ _ (c.query (Database.projectIdOfTask taskId)).1 at own
    change (c.query (Database.projectIdOfTask taskId)).2 = _ at next
    rw [h₁] at own next
    obtain rfl : d = c.skip 1 := next
    cases r with
    | ok pid =>
      cases own with
      | found _ _ value =>
        cases here : c.database.findTask taskId with
        | none => simp [here, firstRow] at value
        | some row =>
          rw [here] at value
          exact .own pid row here (text_of_getText value)
    | error e =>
      obtain ⟨pointed, next⟩ := query_lookup Database.pointerRow
        (fun r => r.value.getText 0 "value") (c.skip 1)
      dsimp only
      cases h₂ : (c.skip 1).query Database.lastActiveProjectId with
      | mk r d =>
        change Lookup _ _ _ ((c.skip 1).query Database.lastActiveProjectId).1 at pointed
        change ((c.skip 1).query Database.lastActiveProjectId).2 = _ at next
        rw [h₂] at pointed next
        obtain rfl : d = c.skip 2 := next
        cases r with
        | ok pid =>
          cases pointed with
          | found _ sound value =>
            cases here : c.database.pointerRow with
            | none =>
              change firstRow _ c.database.pointerRow = _ at value
              simp [here, firstRow] at value
            | some pointer =>
              change firstRow _ c.database.pointerRow = _ at value
              rw [here] at value
              exact .pointed pid pointer here sound (text_of_getText value)
        | error e =>
          have unpointed : (c.skip 1).pointerFails = true ∨ c.database.pointerRow = none := by
            cases pointed with
            | failed _ fails => exact .inl fails
            | absent _ _ missing => exact .inr missing
          obtain ⟨newest, next⟩ :=
            query_lookup (fun db => db.projects.getLast?) (fun r => r.id.getText 0 "id") (c.skip 2)
          dsimp only
          have read : (c.skip 2).failure (c.skip 2).statements = none →
              ((c.skip 2).query Database.newestProjectId).1 = c.database.newestProjectId :=
            query_of_sound
          cases h₃ : (c.skip 2).query Database.newestProjectId with
          | mk r d =>
            change Lookup _ _ _ ((c.skip 2).query Database.newestProjectId).1 at newest
            change ((c.skip 2).query Database.newestProjectId).2 = _ at next
            rw [h₃] at newest next read
            obtain rfl : d = c.skip 3 := next
            cases r with
            | ok pid =>
              have sound : c.failure (c.statements + 2) = none := by
                cases newest with
                | found _ sound value =>
                  simp only [fails, Bool.or_eq_false_iff, Option.isSome_eq_false_iff,
                    Option.isNone_iff_eq_none] at sound
                  exact sound.1
              exact .newest pid unpointed sound (read sound).symm
            | error e => exact .nothing _ _ fun sound => ⟨e, (read sound).symm⟩

/-- The project of the row a saved task leaves: its own, else the last active one, else the newest. -/
def Placed (task : Task) : Prop :=
  ∀ c', c.saveTask task = (.ok (), c') → ∃ row, c'.database.findTask task.id.asStr = some row ∧
    match c.database.findTask task.id.asStr, c.database.pointerRow with
    | some old, _ => row.projectId = old.projectId
    | none, some pointer => row.projectId = pointer.value
    | none, none => ∃ newest, c.database.projects.getLast? = some newest ∧
      row.projectId = newest.id

/-- A new task whose lookup of the last active project fails, while the lookup of the newest one
and the insert go through and the newest one is another. -/
def misplaces (task : Task) : Prop :=
  c.database.findTask task.id.asStr = none ∧
    ∃ pointer, c.database.pointerRow = some pointer ∧ (c.skip 1).pointerFails = true ∧
      ∃ pid row, c.database.newestProjectId = .ok pid ∧ .text pid ≠ pointer.value ∧
        taskParams task pid = .ok row ∧ c.failure (c.statements + 2) = none ∧
        c.failure (c.statements + 3) = none

theorem newest_of_newestProjectId {pid : String} {db : Database}
    (h : db.newestProjectId = .ok pid) :
    ∃ newest, db.projects.getLast? = some newest ∧ newest.id = .text pid := by
  unfold Database.newestProjectId at h
  cases last : db.projects.getLast? with
  | none => simp [last, firstRow] at h
  | some newest =>
    rw [last] at h
    exact ⟨newest, rfl, text_of_getText h⟩

/-- A new task is saved under the newest project where the pointer cannot be read. -/
theorem saveTask_of_misplaces {task : Task} {pid : String} {row : TaskRow}
    (new : c.database.findTask task.id.asStr = none) (fails : (c.skip 1).pointerFails = true)
    (newest : c.database.newestProjectId = .ok pid) (params : taskParams task pid = .ok row)
    (sound : c.failure (c.statements + 2) = none) (writes : c.failure (c.statements + 3) = none) :
    (c.saveTask task).1 = .ok () := by
  have chosen := c.projectFor_choice task.id.asStr
  unfold saveTask
  generalize hp : c.projectFor task.id.asStr = r at chosen
  cases chosen with
  | own _ row here =>
    rw [new] at here
    cases here
  | pointed _ _ _ sound =>
    rw [fails] at sound
    cases sound
  | nothing e d none =>
    obtain ⟨e, absurd⟩ := none sound
    rw [newest] at absurd
    cases absurd
  | newest pid' _ _ value =>
    obtain rfl := Except.ok.inj (newest.symm.trans value)
    obtain ⟨project, last, named⟩ := newest_of_newestProjectId newest
    have known : (c.database.projects.any fun p => decide (p.id = row.projectId)) = true := by
      refine List.any_eq_true.mpr ⟨project, List.mem_of_getLast? last, ?_⟩
      obtain ⟨_, _, _, _, _, _, _, _, _, _, rfl⟩ := taskParams_ok params
      simpa using named
    have inserted : (c.skip 3).execute (Database.upsertTask row) =
        (.ok (), { c.skip 4 with database := { c.database with
          tasks := upsert TaskRow.id Database.mergeTask row c.database.tasks } }) := by
      unfold execute
      rw [show (c.skip 3).failure (c.skip 3).statements = none from writes]
      dsimp only
      rw [show Database.upsertTask row (c.skip 3).database = .ok { c.database with
        tasks := upsert TaskRow.id Database.mergeTask row c.database.tasks } from
        if_pos (by simp only [skip, known, Bool.or_true])]
      rfl
    dsimp only
    rw [params]
    dsimp only
    rw [inserted]

/-- Saving a task chooses its project right exactly where it is not misplaced. -/
theorem saveTask_placed (task : Task) : c.Placed task ↔ ¬ c.misplaces task := by
  have left : ∀ row, row.id = .text task.id.asStr →
      (upsert TaskRow.id Database.mergeTask row c.database.tasks).find?
        (fun r => r.id = .text task.id.asStr) =
        some (((c.database.findTask task.id.asStr).map fun old =>
          Database.mergeTask old row).getD row) := by
    intro row hid
    have found := find?_upsert_self row (fun old => (rfl :
      TaskRow.id (Database.mergeTask old row) = row.id)) c.database.tasks
    rw [hid] at found
    exact found
  constructor
  · rintro placed ⟨new, pointer, here, fails, pid, row, newest, other, params, sound, writes⟩
    have saved := c.saveTask_of_misplaces new fails newest params sound writes
    have chosen := c.projectFor_choice task.id.asStr
    obtain ⟨row', found, same⟩ := placed (c.saveTask task).2 (Prod.ext saved rfl)
    rcases saveTask_cases task c with ⟨e, he, _⟩ | ⟨pid', inserted, params', _, hdb, _, choice⟩
    · rw [saved] at he
      cases he
    · rw [new, here] at same
      have last := left inserted (taskParams_id params')
      rw [hdb] at found
      change List.find? _ _ = _ at found
      rw [last, new] at found
      obtain rfl : inserted = row' := Option.some.inj found
      generalize hp : c.projectFor task.id.asStr = r at chosen choice
      cases chosen with
      | own _ _ here =>
        rw [new] at here
        cases here
      | pointed _ _ _ sound =>
        rw [fails] at sound
        cases sound
      | nothing e d _ => cases choice
      | newest pid'' _ _ value =>
        obtain rfl := Except.ok.inj (newest.symm.trans value)
        obtain rfl := Except.ok.inj choice
        obtain ⟨_, _, _, _, _, _, _, _, _, _, rfl⟩ := taskParams_ok params'
        exact other same
  · intro right c' saves
    rcases saveTask_cases task c with ⟨e, he, _⟩ | ⟨pid, row, params, _, hdb, _, choice⟩
    · rw [saves] at he
      cases he
    · have chosen := c.projectFor_choice task.id.asStr
      have last := left row (taskParams_id params)
      have written : row.projectId = .text pid := by
        obtain ⟨_, _, _, _, _, _, _, _, _, _, rfl⟩ := taskParams_ok params
        rfl
      rw [saves] at hdb
      refine ⟨_, by rw [hdb]; exact last, ?_⟩
      cases new : c.database.findTask task.id.asStr with
      | some old => rfl
      | none =>
        change match (none : Option TaskRow), c.database.pointerRow with
          | some old, _ => row.projectId = old.projectId
          | none, some pointer => row.projectId = pointer.value
          | none, none => ∃ newest, c.database.projects.getLast? = some newest ∧
            row.projectId = newest.id
        rw [written]
        generalize hp : c.projectFor task.id.asStr = r at chosen choice
        cases chosen with
        | own _ _ here =>
          rw [new] at here
          cases here
        | nothing e d _ => cases choice
        | pointed pid' pointer here _ value =>
          obtain rfl := Except.ok.inj choice
          rw [here]
          exact value.symm
        | newest pid' unpointed sound value =>
          obtain rfl := Except.ok.inj choice
          cases here : c.database.pointerRow with
          | none =>
            obtain ⟨newest, last, named⟩ := newest_of_newestProjectId value
            exact ⟨newest, last, named.symm⟩
          | some pointer =>
            by_contra other
            have fails : (c.skip 1).pointerFails = true :=
              unpointed.resolve_right (by simp [here])
            refine right ⟨new, pointer, here, fails, _, row, value, other, params, sound, ?_⟩
            cases writes : c.failure (c.statements + 3) with
            | none => rfl
            | some message =>
              have unwritten : (c.skip 3).execute (Database.upsertTask row) =
                  (.error message, c.skip 4) := by
                unfold execute
                rw [show (c.skip 3).failure (c.skip 3).statements = some message from writes]
                rfl
              unfold saveTask at saves
              simp only [hp, params, unwritten] at saves
              cases saves

end Placement

end Connection

/-- A read failure is reported as absence only by the lookups that are read with `.ok()`. A cell of
text that is not UTF-8 does not read as a `String`: here it is one that is no text. -/
theorem read_failures_reported (c : Connection) :
    (∀ id, Connection.Honest (c.projectFails id = true) (c.database.findProject id = none)
      (c.loadProject id).1) ∧
    (∀ id, Connection.Honest (c.taskFails id = true) (c.database.findTask id = none)
      (c.loadTask id).1) ∧
    (Connection.Honest c.lastActiveFails c.NoLastActive c.loadLastActiveProject.1 ↔
      c.pointerFails = false) ∧
    (∀ projectId, Connection.Honest (c.activeTaskFails projectId) (c.NoActiveTask projectId)
      (c.loadActiveTask projectId).1 ↔ c.activeFails projectId = false) ∧
    (c.HonestRecovery (SessionRecovery.execute (σ := SqliteStateRepository) ⟨c,false⟩).1 ↔
      c.lookupsSound) ∧
    (∀ task, c.Placed task ↔ ¬ c.misplaces task) ∧
    ((∀ w, World.withStorage (some ((⟨c,false⟩ : SqliteStateRepository), false)) = .ok w →
      c.hasLastActive → w.state.project ≠ none) ↔ ¬ (c.pointerFails = true ∧ c.hasLastActive)) := by
  refine ⟨fun id => ?_, fun id => ?_, c.loadLastActiveProject_honest, c.loadActiveTask_honest,
    c.execute_honest, c.saveTask_placed, c.withStorage_kept⟩
  · exact Connection.load_honest (Connection.loadProject_load id c).1
  · exact Connection.load_honest (Connection.loadTask_load id c).1

/-- The last active of two projects is the older one. -/
def twoProjects : Database :=
  (((Database.empty.putProject plainProject).putProject
    ⟨⟨⟨"q",by decide⟩⟩,⟨"other",by decide⟩,⟨"/q",by decide⟩,false⟩).point "p")

def lockedAt (n : Nat) : Connection :=
  ⟨twoProjects,fun i => if i = n then some "database is locked" else none,0⟩

/-- A locked database reads as a first start, and a new task goes to the other project. -/
theorem read_failure_is_absence :
    (lockedAt 0).lastActiveFails ∧ (lockedAt 0).hasLastActive ∧
      (lockedAt 0).loadLastActiveProject.1 = .ok none ∧
      (∃ w, World.withStorage (some ((⟨lockedAt 0,false⟩ : SqliteStateRepository), false)) =
        .ok w ∧ w.state.project = none) ∧
      twoProjects.lastActiveProjectId = .ok "p" ∧ ((lockedAt 1).saveTask draft).1 = .ok () ∧
      (((lockedAt 1).saveTask draft).2.database.findTask "t").map TaskRow.projectId =
        some (.text "q") := by
  refine ⟨.inl (by decide +kernel), ⟨_, rfl, projectParams plainProject, by decide, rfl⟩,
    by decide +kernel,
    ⟨_, withStorage_iff.mpr ⟨⟨none,none⟩, rfl, rfl⟩, rfl⟩, by decide +kernel, by decide +kernel,
    by decide +kernel⟩

end Kesharon.Daemon

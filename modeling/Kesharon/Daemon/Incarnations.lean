import Kesharon.Daemon.Inspected
import Kesharon.Daemon.Restart
import Kesharon.Daemon.Visible

namespace Kesharon.Daemon

open Framework Framework.Sql Domain Protocol Application

/-- `try_production`, over the database that `KESHARON_STATE_DB` names or over one in memory:
whether it can be opened, and what its statements fail with. -/
def World.tryProduction (stateDb : Option Database) (opened : Except ApplicationError Unit)
    (failure : Nat → Option String) : Except ApplicationError (World SqliteStateRepository) :=
  match opened with
  | .error e => .error e
  | .ok () => World.withStorage (some (⟨⟨stateDb.getD Database.empty,failure,0⟩,false⟩, false))

/-- The daemon's process and its database: between two lives of the process, or in one. -/
inductive Incarnation where
  | down (database : Database)
  | up (streamId : String) (w : World SqliteStateRepository)

/-- A process can die anywhere; inside a save, it dies behind some of its statements. -/
inductive IncarnationAction where
  | start (streamId : String) (opened : Except ApplicationError Unit) (failure : Nat → Option String)
  | session (action : Action)
  | dies
  | diesSaving (call : FlagId) (statements : Nat)

inductive IncarnationOutput where
  | started (result : Except ApplicationError Unit)
  | session (output : Output)
  | died (completed : Option Project)

/-- No statement behind the next ones runs. -/
def SqliteStateRepository.dying (repo : SqliteStateRepository) (statements : Nat) :
    SqliteStateRepository :=
  { repo with
    connection := { repo.connection with
      failure := fun i =>
        if i < repo.connection.statements + statements then repo.connection.failure i
        else some "the process has died" } }

namespace Incarnation

/-- The database on disk. -/
def database : Incarnation → Database
  | .down database => database
  | .up _ w =>
    match w.stateRepository with
    | some repo => repo.connection.database
    | none => Database.empty

def step (s : Incarnation) : IncarnationAction → Option (Incarnation × IncarnationOutput)
  | .start streamId opened failure =>
    match s with
    | .up _ _ => none
    | .down database =>
      match World.tryProduction (some database) opened failure with
      | .error e => some (.down database, .started (.error e))
      | .ok w => some (.up streamId w, .started (.ok ()))
  | .session action =>
    match s with
    | .down _ => none
    | .up streamId w => (w.step streamId action).map fun r => (.up streamId r.1, .session r.2)
  | .dies =>
    match s with
    | .down _ => none
    | .up _ _ => some (.down s.database, .died none)
  | .diesSaving call statements =>
    match s with
    | .down _ => none
    | .up _ w =>
      match (w.opens.lookup call).map OpenCall.execution, w.stateRepository with
      | some (.returned (.ok p)), some repo =>
        match StateRepository.saveProject p (repo.dying statements) with
        | (.ok (), repo) => some (.down repo.connection.database, .died (some p))
        | (.error _, repo) => some (.down repo.connection.database, .died none)
      | _, _ => none

/-- Reads succeed where a process starts, no lock is poisoned, and the event counter is below
`u64::MAX`. -/
def Reliable (s : Incarnation) (a : IncarnationAction) (t : Incarnation) : Prop :=
  match a with
  | .start _ _ failure =>
    let repo : SqliteStateRepository := ⟨⟨s.database,failure,0⟩,false⟩
    repo.connection.Sound (SessionRecovery.execute repo).2.connection
  | .session _ =>
    match t with
    | .up _ w => Healthy w
    | .down _ => True
  | .dies | .diesSaving _ _ => True

instance (s : Incarnation) (a : IncarnationAction) (t : Incarnation) : Decidable (s.Reliable a t) :=
  match a with
  | .start _ _ _ => inferInstanceAs (Decidable (∀ i, _ ≤ i → i < _ → _ = _))
  | .session _ =>
    match t with
    | .up _ w => inferInstanceAs (Decidable (Healthy w))
    | .down _ => .isTrue trivial
  | .dies => .isTrue trivial
  | .diesSaving _ _ => .isTrue trivial

end Incarnation

def incarnations : Machine Incarnation IncarnationAction IncarnationOutput := ⟨Incarnation.step⟩

/-- The ids that all lives of the process have got from the generator. -/
def incarnationIds (tr : List (IncarnationAction × IncarnationOutput)) : List String :=
  tr.filterMap fun x => match x.1 with
    | .session action => generatedId action
    | _ => none

/-- The project that a step announces or that a process completes the save of as it dies; else the
one before. -/
def projectBehind (project : Option ProjectSnapshot) :
    IncarnationOutput → Option ProjectSnapshot
  | .session output => output.events.foldl (fun project event => projectAfter event project) project
  | .died (some p) => some (snapshotOf p)
  | _ => project

/-- The project announced last in all lives of the process. -/
def latestProject (tr : List (IncarnationAction × IncarnationOutput)) : Option ProjectSnapshot :=
  tr.foldl (fun project x => projectBehind project x.2) none

/-- The steps of one life in the trace. -/
def lived (life : List (Action × Output)) : List (IncarnationAction × IncarnationOutput) :=
  life.map fun x => (.session x.1, .session x.2)

/-- What a database between two lives has kept of those before. -/
structure Kept (tr : List (IncarnationAction × IncarnationOutput)) (database : Database) : Prop where
  recovers : ∃ project task, database.recovered = .ok ⟨project,task⟩ ∧
    latestProject tr = project.map snapshotOf
  named : ∀ v ∈ database.projectIds, ∃ id ∈ incarnationIds tr, v = .text id

/-- What a life goes on from and what it has come to. -/
structure Alive (tr : List (IncarnationAction × IncarnationOutput))
    (w : World SqliteStateRepository) : Prop where
  healthy : Healthy w
  latest : w.state.project = latestProject tr
  durable : ∃ before life known repo, tr = before ++ lived life ∧ Durable known life repo w ∧
    ∀ v ∈ known, ∃ id ∈ incarnationIds before, v = .text id

def Persists (tr : List (IncarnationAction × IncarnationOutput)) : Incarnation → Prop
  | .down database => Kept tr database
  | .up _ w => Alive tr w

section Steps

variable {tr before : List (IncarnationAction × IncarnationOutput)} {life : List (Action × Output)}
variable {database : Database} {w w' : World SqliteStateRepository} {streamId : String}

theorem latestProject_snoc (a : IncarnationAction) (o : IncarnationOutput) :
    latestProject (tr ++ [(a, o)]) = projectBehind (latestProject tr) o := by
  simp [latestProject, List.foldl_append]

theorem incarnationIds_append (xs ys : List (IncarnationAction × IncarnationOutput)) :
    incarnationIds (xs ++ ys) = incarnationIds xs ++ incarnationIds ys := by
  simp [incarnationIds, List.filterMap_append]

theorem incarnationIds_lived (life : List (Action × Output)) :
    incarnationIds (lived life) = generatedIds life := by
  simp only [incarnationIds, lived, generatedIds, List.filterMap_map]
  rfl

/-- What comes next is not yet known to the database that the life has begun with. -/
theorem never_repeated (once : (incarnationIds (before ++ lived life)).Nodup) {known : List Value}
    (old : ∀ v ∈ known, ∃ id ∈ incarnationIds before, v = .text id) :
    NeverRepeated known life := by
  rw [incarnationIds_append, incarnationIds_lived] at once
  obtain ⟨_, distinct, apart⟩ := List.nodup_append.mp once
  refine ⟨distinct, ?_⟩
  intro id among named
  obtain ⟨id', earlier, same⟩ := old _ named
  obtain rfl := Value.text.inj same
  exact apart id earlier id among rfl

/-- The names of a life are ids of all lives. -/
theorem named_of_durable {known : List Value} {repo : SqliteStateRepository}
    (durable : Durable known life repo w)
    (old : ∀ v ∈ known, ∃ id ∈ incarnationIds before, v = .text id) :
    ∀ v ∈ repo.connection.database.projectIds,
      ∃ id ∈ incarnationIds (before ++ lived life), v = .text id := by
  intro v among
  rw [incarnationIds_append, incarnationIds_lived]
  rcases durable.named v among with first | ⟨id, later, same⟩
  · obtain ⟨id, earlier, same⟩ := old v first
    exact ⟨id, List.mem_append_left _ earlier, same⟩
  · exact ⟨id, List.mem_append_right _ later, same⟩

theorem lived_snoc (life : List (Action × Output)) (a : Action) (o : Output) :
    lived (life ++ [(a, o)]) = lived life ++ [(.session a, .session o)] := by
  simp [lived]

/-- What a step of a session announces is its project. -/
theorem projectBehind_session {a : Action} {o : Output}
    (step : (session SqliteStateRepository streamId).step w a = some (w', o)) :
    w'.state.project = projectBehind w.state.project (.session o) := by
  have seen := World.step_visible step
  change w'.state.project =
    o.events.foldl (fun project event => projectAfter event project) w.state.project
  generalize o.events = events at seen
  cases seen with
  | quiet project active counter => exact project
  | started sequence requestId flag project active next counter => exact project
  | ended sequence payload terminal project active next counter => exact project

theorem persists_start (h : Kept tr database) {opened : Except ApplicationError Unit}
    {failure : Nat → Option String} {o : IncarnationOutput}
    (created : World.tryProduction (some database) opened failure = .ok w)
    (reads : (Incarnation.down database).Reliable (.start streamId opened failure) (.up streamId w))
    (quiet : projectBehind (latestProject tr) o = latestProject tr) :
    Alive (tr ++ [(.start streamId opened failure, o)]) w := by
  let repo : SqliteStateRepository := ⟨⟨database,failure,0⟩,false⟩
  unfold World.tryProduction at created
  cases opened with
  | error e => cases created
  | ok u =>
    have created : World.withStorage (some (repo, false)) = .ok w := created
    have durable := withStorage_durable created reads
    have same : (SessionRecovery.execute repo).2.connection.database = database :=
      (SqliteStateRepository.execute_reads repo).2.database
    obtain ⟨project, task, recovers, latest⟩ := h.recovers
    obtain ⟨project', task', recovers', current⟩ := durable.recovers
    rw [same, recovers] at recovers'
    obtain ⟨rfl, rfl⟩ := RecoveredSession.mk.inj (Except.ok.inj recovers')
    have begins : tr ++ [(.start streamId (.ok u) failure, o)] =
        (tr ++ [(.start streamId (.ok u) failure, o)]) ++ lived [] := (List.append_nil _).symm
    refine ⟨(Started.withStorage created).healthy, ?_, _, [], _, _, begins, durable, ?_⟩
    · rw [latestProject_snoc, quiet, latest, current]
    · intro v among
      obtain ⟨id, named, eq⟩ := h.named v among
      rw [incarnationIds_append]
      exact ⟨id, List.mem_append_left _ named, eq⟩

theorem Alive.session {a : Action} {o : Output} (h : Alive tr w) (healthy : Healthy w')
    (once : (incarnationIds (tr ++ [(.session a, .session o)])).Nodup)
    (step : (session SqliteStateRepository streamId).step w a = some (w', o)) :
    Alive (tr ++ [(.session a, .session o)]) w' := by
  obtain ⟨before, life, known, repo, rfl, durable, old⟩ := h.durable
  have later : before ++ lived life ++ [(.session a, .session o)] =
      before ++ lived (life ++ [(a, o)]) := by
    rw [lived_snoc, List.append_assoc]
  have ids : NeverRepeated known (life ++ [(a, o)]) := never_repeated (later ▸ once) old
  obtain ⟨repo', durable'⟩ := outcome_durable durable h.healthy (durable.fresh.step ids step)
    (step_outcome h.healthy healthy step)
  refine ⟨healthy, ?_, before, life ++ [(a, o)], known, repo', later, durable', old⟩
  rw [latestProject_snoc, ← h.latest]
  exact projectBehind_session step

theorem Alive.dies (h : Alive tr w) (a : IncarnationAction) :
    Kept (tr ++ [(a, .died none)]) (Incarnation.up streamId w).database := by
  obtain ⟨before, life, known, repo, rfl, durable, old⟩ := h.durable
  have disk : (Incarnation.up streamId w).database = repo.connection.database := by
    simp [Incarnation.database, durable.store]
  obtain ⟨project, task, recovers, current⟩ := durable.recovers
  rw [disk]
  refine ⟨⟨project, task, recovers, ?_⟩, ?_⟩
  · rw [latestProject_snoc, ← current, h.latest]
    rfl
  · intro v among
    obtain ⟨id, named, eq⟩ := named_of_durable durable old v among
    rw [incarnationIds_append]
    exact ⟨id, List.mem_append_left _ named, eq⟩

/-- A process that dies inside a save has completed it, or has written a row that nothing points
to, or nothing. -/
theorem Alive.diesSaving (h : Alive tr w) {flag : FlagId} {p : Project} {statements : Nat}
    {repo repo' : SqliteStateRepository} {result : Except ApplicationError Unit}
    (pending : Pending w flag p) (store : w.stateRepository = some repo)
    (save : StateRepository.saveProject p (repo.dying statements) = (result, repo')) :
    Kept (tr ++ [(.diesSaving flag statements, .died (result.toOption.map fun _ => p))])
      repo'.connection.database := by
  obtain ⟨before, life, known, _, rfl, durable, old⟩ := h.durable
  obtain rfl := Option.some.inj (store.symm.trans durable.store)
  obtain ⟨generated, unnamed⟩ := durable.generated flag p pending
  have free : (repo.dying statements).poisoned = false := durable.unlocked
  obtain ⟨_, outcome⟩ := SqliteStateRepository.saveProject_outcome free save
  have names : ∀ v, v ∈ repo.connection.database.projectIds ∨ v = .text p.id.asStr →
      ∃ id ∈ incarnationIds (before ++ lived life ++
        [(.diesSaving flag statements, .died (result.toOption.map fun _ => p))]), v = .text id := by
    intro v known
    rw [incarnationIds_append]
    rcases known with among | rfl
    · obtain ⟨id, named, eq⟩ := named_of_durable durable old v among
      exact ⟨id, List.mem_append_left _ named, eq⟩
    · refine ⟨p.id.asStr, List.mem_append_left _ ?_, rfl⟩
      rw [incarnationIds_append, incarnationIds_lived]
      exact List.mem_append_right _ generated
  obtain ⟨project, task, recovers, current⟩ := durable.recovers
  cases outcome with
  | failed e same =>
    rw [same.database]
    refine ⟨⟨project, task, recovers, ?_⟩, fun v among => names v (.inl among)⟩
    rw [latestProject_snoc, ← current, h.latest]
    rfl
  | unpointed e written failure =>
    rw [written]
    refine ⟨⟨project, task, ?_, ?_⟩, fun v among => names v (Database.projectIds_putProject among)⟩
    · rw [← recovers]
      exact Database.recovered_putProject unnamed
    · rw [latestProject_snoc, ← current, h.latest]
      rfl
  | saved written failure =>
    rw [written]
    refine ⟨⟨some p, none, Database.recovered_saved unnamed, ?_⟩, ?_⟩
    · rw [latestProject_snoc]
      rfl
    · intro v among
      rcases Database.projectIds_point among with row | pointer
      · exact names v (Database.projectIds_putProject row)
      · exact names v (.inr pointer)

theorem Persists.step {s s' : Incarnation} {a : IncarnationAction} {o : IncarnationOutput}
    (h : Persists tr s) (once : (incarnationIds (tr ++ [(a, o)])).Nodup) (reliable : s.Reliable a s')
    (step : s.step a = some (s', o)) : Persists (tr ++ [(a, o)]) s' := by
  cases a with
  | start streamId opened failure =>
    cases s with
    | up _ _ => cases step
    | down database =>
      simp only [Incarnation.step] at step
      split at step
      · obtain ⟨rfl, rfl⟩ := Prod.mk.inj (Option.some.inj step)
        obtain ⟨project, task, recovers, latest⟩ := h.recovers
        refine ⟨⟨project, task, recovers, ?_⟩, ?_⟩
        · rw [latestProject_snoc, ← latest]
          rfl
        · intro v among
          obtain ⟨id, named, eq⟩ := h.named v among
          rw [incarnationIds_append]
          exact ⟨id, List.mem_append_left _ named, eq⟩
      · rename_i w created
        obtain ⟨rfl, rfl⟩ := Prod.mk.inj (Option.some.inj step)
        exact persists_start h created reliable rfl
  | session action =>
    cases s with
    | down _ => cases step
    | up streamId w =>
      obtain ⟨⟨w', output⟩, ran, same⟩ := Option.map_eq_some_iff.mp step
      obtain ⟨rfl, rfl⟩ := Prod.mk.inj same
      exact h.session reliable once ran
  | dies =>
    cases s with
    | down _ => cases step
    | up streamId w =>
      obtain ⟨rfl, rfl⟩ := Prod.mk.inj (Option.some.inj step)
      exact h.dies .dies
  | diesSaving flag statements =>
    cases s with
    | down _ => cases step
    | up streamId w =>
      simp only [Incarnation.step] at step
      split at step
      · rename_i p repo found store
        obtain ⟨call, running, returned⟩ := Option.map_eq_some_iff.mp found
        have pending : Pending w flag p := ⟨call, running, returned⟩
        split at step
        · rename_i repo' save
          obtain ⟨rfl, rfl⟩ := Prod.mk.inj (Option.some.inj step)
          exact h.diesSaving pending store save
        · rename_i e repo' save
          obtain ⟨rfl, rfl⟩ := Prod.mk.inj (Option.some.inj step)
          exact h.diesSaving pending store save
      · cases step

end Steps

theorem persists {tr : List (IncarnationAction × IncarnationOutput)} {s : Incarnation}
    (run : incarnations.Run Incarnation.Reliable (.down Database.empty) tr s)
    (once : (incarnationIds tr).Nodup) : Persists tr s := by
  have always : (incarnationIds tr).Nodup → Persists tr s := by
    apply run.history (P := fun tr s => (incarnationIds tr).Nodup → Persists tr s)
    · intro _
      refine ⟨⟨none, none, rfl, rfl⟩, ?_⟩
      intro v among
      cases among
    · intro tr s a s' o before reliable step once
      have earlier := once
      rw [incarnationIds_append] at earlier
      exact (before (List.nodup_append.mp earlier).1).step once reliable step
  exact always once

/-- However often the process dies, between the steps of a session or inside a save, and starts
again, it goes on from the project that it announced last or whose save it completed as it died;
and it can always start again. -/
theorem incarnations_recover {tr : List (IncarnationAction × IncarnationOutput)} {s : Incarnation}
    (run : incarnations.Run Incarnation.Reliable (.down Database.empty) tr s)
    (once : (incarnationIds tr).Nodup) :
    (∀ streamId w, s = .up streamId w →
      (w.snapshotLocked streamId).project = latestProject tr) ∧
    ∀ database streamId failure, s = .down database →
      (Incarnation.down database).Reliable (.start streamId (.ok ()) failure) s →
      ∃ w, incarnations.step s (.start streamId (.ok ()) failure) =
        some (.up streamId w, .started (.ok ())) ∧
        (w.snapshotLocked streamId).project = latestProject tr := by
  have h := persists run once
  constructor
  · rintro streamId w rfl
    exact h.latest
  · rintro database streamId failure rfl reads
    let repo : SqliteStateRepository := ⟨⟨database,failure,0⟩,false⟩
    obtain ⟨project, task, recovers, latest⟩ := h.recovers
    have free : repo.poisoned = false := rfl
    have value := SqliteStateRepository.execute_sound free reads
    let w := World.init (project.map snapshotOf) task (some (SessionRecovery.execute repo).2)
    have created : World.tryProduction (some database) (.ok ()) failure = .ok w :=
      withStorage_iff.mpr ⟨⟨project,task⟩, value.trans recovers, rfl⟩
    refine ⟨w, ?_, latest.symm⟩
    change (Incarnation.down database).step (.start streamId (.ok ()) failure) = _
    simp only [Incarnation.step, created]

/-- The steps of a call that opens a project. -/
def opening (flag : FlagId) (requestId key path nextId : String) : List IncarnationAction :=
  [.session (.dispatch ⟨PROTOCOL_VERSION,requestId,.openProject path,some key⟩),
    .session (.firstCheck flag), .session (.inspectReturns flag (.ok ⟨path,nextId⟩)),
    .session (.secondCheck flag nextId)]

/-- The second process dies before it points to the project that it has written, the third one
behind that. -/
theorem incarnations_recover_again :
    ∃ tr w, incarnations.Run Incarnation.Reliable (.down Database.empty) tr (.up "u" w) ∧
      (incarnationIds tr).Nodup ∧ latestProject tr = some ⟨"r","r","/r",false⟩ ∧
      (w.snapshotLocked "u").project = latestProject tr := by
  have executed : (incarnations.exec Incarnation.Reliable (.down Database.empty)
      ([.start "s" (.ok ()) fun _ => none] ++ opening 0 "a" "k" "/p" "p" ++ [.session (.finish 0)] ++
        opening 1 "b" "l" "/q" "q" ++ [.diesSaving 1 1, .start "t" (.ok ()) fun _ => none] ++
        opening 0 "c" "m" "/r" "r" ++ [.diesSaving 0 2, .start "u" (.ok ()) fun _ => none])).bind
      (fun r => match r.2 with
        | .up streamId _ => if (incarnationIds r.1).Nodup then
            (latestProject r.1).map fun project => (streamId, project) else none
        | .down _ => none) = some ("u", ⟨"r","r","/r",false⟩) := by decide +kernel
  obtain ⟨⟨tr, s⟩, executed, seen⟩ := Option.bind_eq_some_iff.mp executed
  have run := Machine.run_of_exec executed
  dsimp only at seen
  cases s with
  | down _ => cases seen
  | up streamId w =>
    dsimp only at seen
    split_ifs at seen with once
    obtain ⟨project, latest, same⟩ := Option.map_eq_some_iff.mp seen
    obtain ⟨rfl, rfl⟩ := Prod.mk.inj same
    exact ⟨tr, w, run, once, latest, (incarnations_recover run once).1 "u" w rfl⟩

end Kesharon.Daemon

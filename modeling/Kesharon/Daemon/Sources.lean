import Kesharon.Daemon.Incarnations

namespace Kesharon.Daemon

open Framework Framework.Sql Domain Protocol Application

/-- One life of the process has inspected what the project has been built of. -/
def InspectedIn (tr : List (IncarnationAction × IncarnationOutput)) (requestId : String)
    (p : Project) : Prop :=
  ∃ before life after, tr = before ++ lived life ++ after ∧
    Inspected (life.map Prod.fst) requestId p

/-- The events that a step announces. -/
def IncarnationOutput.events : IncarnationOutput → List DaemonEvent
  | .session output => output.events
  | _ => []

/-- Where the calls of a life stand, and where its project comes from. -/
structure SourcedLife (tr : List (IncarnationAction × IncarnationOutput))
    (w : World SqliteStateRepository) : Prop where
  healthy : Healthy w
  stored : ∃ repo, w.stateRepository = some repo
  calls : ∃ before life, tr = before ++ lived life ∧
    ∀ flag call, w.opens.lookup flag = some call → Traced (life.map Prod.fst) flag call
  project : ∀ snapshot, w.state.project = some snapshot →
    ∃ requestId p, snapshot = snapshotOf p ∧ InspectedIn tr requestId p

/-- Every row, every project that a session holds and every announcement comes from an inspection. -/
structure Sourced (tr : List (IncarnationAction × IncarnationOutput)) (s : Incarnation) : Prop where
  rows : ∀ row ∈ s.database.projects,
    ∃ requestId p, row = projectParams p ∧ InspectedIn tr requestId p
  events : ∀ x ∈ tr, ∀ event ∈ x.2.events, ∀ requestId snapshot,
    event.payload = .projectOpened requestId snapshot →
    ∃ p, snapshot = snapshotOf p ∧ InspectedIn tr requestId p
  life : ∀ streamId w, s = .up streamId w → SourcedLife tr w

section Steps

variable {tr : List (IncarnationAction × IncarnationOutput)} {requestId streamId : String}
variable {p : Project} {database : Database} {w w' : World SqliteStateRepository}

theorem InspectedIn.mono (h : InspectedIn tr requestId p)
    (more : List (IncarnationAction × IncarnationOutput)) :
    InspectedIn (tr ++ more) requestId p := by
  obtain ⟨before, life, after, rfl, inspected⟩ := h
  exact ⟨before, life, after ++ more, List.append_assoc .., inspected⟩

/-- The project of a call that is about to be saved. -/
theorem SourcedLife.pending (h : SourcedLife tr w) {flag : FlagId} (pending : Pending w flag p) :
    ∃ call, w.opens.lookup flag = some call ∧
      InspectedIn tr call.request.requestId p := by
  obtain ⟨before, life, rfl, calls⟩ := h.calls
  obtain ⟨call, running, returned⟩ := pending
  have inspected := (calls flag call running).inspected returned
  exact ⟨call, running, before, life, [], (List.append_nil _).symm, inspected⟩

/-- A save writes no row but the one of its project. -/
theorem rows_saveProject {repo : SqliteStateRepository} {row : ProjectRow}
    (h : row ∈ (StateRepository.saveProject p repo).2.connection.database.projects) :
    row ∈ repo.connection.database.projects ∨ row = projectParams p := by
  have put {db : Database} (among : row ∈ (db.putProject p).projects) :
      row ∈ db.projects ∨ row = projectParams p := by
    rcases mem_upsert among with old | ⟨new, _⟩ | ⟨_, _, _, new⟩
    · exact .inl old
    · exact .inr new
    · exact .inr new
  rcases SqliteStateRepository.saveProject_cases p repo with ⟨_, same⟩ | outcome
  · rw [same] at h
    exact .inl h
  · generalize (StateRepository.saveProject p repo).1 = result at outcome
    generalize (StateRepository.saveProject p repo).2.connection = c at outcome h
    cases outcome with
    | failed _ same =>
      rw [same.database] at h
      exact .inl h
    | unpointed _ written failure =>
      rw [written] at h
      exact put h
    | saved written failure =>
      rw [written] at h
      exact put h

/-- What is recovered is read from a row. -/
theorem row_of_recovered {task : Option Task}
    (h : database.recovered = .ok ⟨some p,task⟩) :
    ∃ row ∈ database.projects, parseProjectRow row = .ok p := by
  have last := Database.lastActiveProject_of_recovered h
  unfold Database.lastActiveProject at last
  cases pointer : database.lastActiveProjectId with
  | error e => simp [pointer] at last
  | ok id =>
    simp only [pointer, Database.project] at last
    cases found : database.findProject id with
    | none => simp [found] at last
    | some row =>
      simp only [found] at last
      cases parsed : parseProjectRow row with
      | error e => simp [parsed, Except.map] at last
      | ok q =>
        obtain rfl : q = p := by simpa [parsed, Except.map] using last
        exact ⟨row, List.mem_of_find?_eq_some found, parsed⟩

theorem sourced_start (rows : ∀ row ∈ database.projects,
      ∃ requestId p, row = projectParams p ∧ InspectedIn tr requestId p)
    {opened : Except ApplicationError Unit} {failure : Nat → Option String} {o : IncarnationOutput}
    (created : World.tryProduction (some database) opened failure = .ok w)
    (reads : (Incarnation.down database).Reliable (.start streamId opened failure)
      (.up streamId w)) :
    SourcedLife (tr ++ [(.start streamId opened failure, o)]) w ∧
      (Incarnation.up streamId w).database = database := by
  let repo : SqliteStateRepository := ⟨⟨database,failure,0⟩,false⟩
  unfold World.tryProduction at created
  cases opened with
  | error e => cases created
  | ok u =>
    have created : World.withStorage (some (repo, false)) = .ok w := created
    have durable := withStorage_durable created reads
    have same : (SessionRecovery.execute repo).2.connection.database = database :=
      (SqliteStateRepository.execute_reads repo).2.database
    have disk : (Incarnation.up streamId w).database = database := by
      simp only [Incarnation.database, durable.store]
      exact same
    obtain ⟨project, task, recovers, current⟩ := durable.recovers
    rw [same] at recovers
    have nobody : ∀ flag call, w.opens.lookup flag = some call → Traced [] flag call := by
      obtain ⟨_, _, _, rfl⟩ := (Started.withStorage created).init
      intro flag call found
      simp [World.init] at found
    refine ⟨⟨(Started.withStorage created).healthy, ⟨_, durable.store⟩, ?_, ?_⟩, disk⟩
    · exact ⟨_, [], (List.append_nil _).symm, nobody⟩
    · intro snapshot known
      obtain ⟨p, rfl, rfl⟩ := Option.map_eq_some_iff.mp (current.symm.trans known)
      obtain ⟨row, among, parsed⟩ := row_of_recovered recovers
      obtain ⟨requestId, q, rfl, inspected⟩ := rows row among
      obtain rfl : q = p := by
        rw [parseProjectRow_params] at parsed
        exact Except.ok.inj parsed
      exact ⟨requestId, q, rfl, inspected.mono _⟩

/-- A step of a session. -/
theorem SourcedLife.steps {a : Action} {o : Output} (h : SourcedLife tr w)
    (healthy : Healthy w')
    (step : (session SqliteStateRepository streamId).step w a = some (w', o)) :
    SourcedLife (tr ++ [(.session a, .session o)]) w' := by
  have store := (step_storage step).2
  have effect := World.step_effect step
  have before := h
  obtain ⟨past, life, rfl, calls⟩ := h.calls
  refine ⟨healthy, ?_, ⟨past, life ++ [(a, o)], ?_, ?_⟩, ?_⟩
  · obtain ⟨repo, found⟩ := h.stored
    cases store with
    | kept _ same project => exact ⟨repo, same.trans found⟩
    | unstored _ none none' =>
      rw [found] at none
      cases none
    | saved flag p repo' pending stateLock repositoryLock found' saved project => exact ⟨_, saved⟩
  · rw [lived_snoc, List.append_assoc]
  · rw [List.map_append]
    exact traced_step calls effect
  · intro snapshot known
    have old (same : w'.state.project = w.state.project) :
        ∃ requestId p, snapshot = snapshotOf p ∧
          InspectedIn (past ++ lived life ++ [(.session a, .session o)]) requestId p := by
      obtain ⟨requestId, p, rfl, inspected⟩ := h.project snapshot (same.symm.trans known)
      exact ⟨requestId, p, rfl, inspected.mono _⟩
    cases store with
    | kept _ same project => exact old project
    | unstored _ none none' =>
      obtain ⟨repo, found⟩ := h.stored
      rw [found] at none
      cases none
    | saved flag p repo' pending stateLock repositoryLock found' saved project =>
      rcases project with same | ⟨_, _, new⟩
      · exact old same
      · obtain ⟨call, _, inspected⟩ := before.pending pending
        obtain rfl := Option.some.inj (new.symm.trans known)
        exact ⟨call.request.requestId, p, rfl, inspected.mono _⟩

theorem SourcedLife.rows_step {a : Action} {o : Output} (h : SourcedLife tr w)
    (rows : ∀ row ∈ (Incarnation.up streamId w).database.projects,
      ∃ requestId p, row = projectParams p ∧ InspectedIn tr requestId p)
    (step : (session SqliteStateRepository streamId).step w a = some (w', o)) {row : ProjectRow}
    (among : row ∈ (Incarnation.up streamId w').database.projects) :
    ∃ requestId p, row = projectParams p ∧
      InspectedIn (tr ++ [(.session a, .session o)]) requestId p := by
  obtain ⟨repo, found⟩ := h.stored
  have disk : (Incarnation.up streamId w).database = repo.connection.database := by
    simp [Incarnation.database, found]
  have old (before : row ∈ repo.connection.database.projects) :
      ∃ requestId p, row = projectParams p ∧
        InspectedIn (tr ++ [(.session a, .session o)]) requestId p := by
    obtain ⟨requestId, p, same, inspected⟩ := rows row (disk ▸ before)
    exact ⟨requestId, p, same, inspected.mono _⟩
  cases (step_storage step).2 with
  | kept _ same project =>
    simp only [Incarnation.database, same, found] at among
    exact old among
  | unstored _ none none' =>
    rw [found] at none
    cases none
  | saved flag p repo' pending stateLock repositoryLock found' saved project =>
    obtain rfl := Option.some.inj (found.symm.trans found')
    simp only [Incarnation.database, saved] at among
    rcases rows_saveProject among with before | new
    · exact old before
    · obtain ⟨call, _, inspected⟩ := h.pending pending
      exact ⟨call.request.requestId, p, new, inspected.mono _⟩

/-- What a step of a session announces. -/
theorem SourcedLife.announces {a : Action} {o : Output} (h : SourcedLife tr w)
    (healthy : Healthy w')
    (step : (session SqliteStateRepository streamId).step w a = some (w', o))
    {event : DaemonEvent} (among : event ∈ o.events) {snapshot : ProjectSnapshot}
    (opened : event.payload = .projectOpened requestId snapshot) :
    ∃ p, snapshot = snapshotOf p ∧ InspectedIn tr requestId p := by
  cases step_outcome h.healthy healthy step with
  | answered request response => cases among
  | cancelled request target key completion => cases among
  | received ch r c => cases among
  | hungUp ch => cases among
  | moved _ flag call execution running moves => cases among
  | subscribed =>
    unfold World.subscribe at among
    split_ifs at among <;> cases among
  | begun request path key event' method keyed notCompleted notInFlight idle next =>
    obtain rfl := List.mem_singleton.mp among
    rw [next.payload_eq] at opened
    cases opened
  | finished flag call result repo project payload event' response saved completion running here
      settles next completes =>
    obtain rfl := List.mem_singleton.mp among
    rw [next.payload_eq] at opened
    have announced (q : Project) (returned : result = .ok q)
        (said : DaemonEventPayload.projectOpened call.request.requestId (snapshotOf q) =
          .projectOpened requestId snapshot) :
        ∃ p, snapshot = snapshotOf p ∧ InspectedIn tr requestId p := by
      subst returned
      obtain ⟨rfl, rfl⟩ := DaemonEventPayload.projectOpened.inj said
      obtain ⟨call', running', inspected⟩ := h.pending ⟨call, running, here⟩
      obtain rfl := Option.some.inj (running.symm.trans running')
      exact ⟨q, rfl, inspected⟩
    cases settles with
    | opened q noStore => exact announced q rfl opened
    | stored q old repo' found save => exact announced q rfl opened
    | unsaved q e old repo' found save => cases opened
    | cancelled => cases opened
    | failed e other => cases opened

theorem Sourced.step {s s' : Incarnation} {a : IncarnationAction} {o : IncarnationOutput}
    (h : Sourced tr s) (reliable : s.Reliable a s') (step : s.step a = some (s', o)) :
    Sourced (tr ++ [(a, o)]) s' := by
  have moreRows : ∀ row ∈ s.database.projects,
      ∃ requestId p, row = projectParams p ∧ InspectedIn (tr ++ [(a, o)]) requestId p := by
    intro row among
    obtain ⟨requestId, p, same, inspected⟩ := h.rows row among
    exact ⟨requestId, p, same, inspected.mono _⟩
  have moreEvents (said : ∀ event ∈ o.events, ∀ requestId snapshot,
      event.payload = .projectOpened requestId snapshot →
      ∃ p, snapshot = snapshotOf p ∧ InspectedIn tr requestId p) :
      ∀ x ∈ tr ++ [(a, o)], ∀ event ∈ x.2.events, ∀ requestId snapshot,
        event.payload = .projectOpened requestId snapshot →
        ∃ p, snapshot = snapshotOf p ∧ InspectedIn (tr ++ [(a, o)]) requestId p := by
    intro x among event told requestId snapshot opened
    rcases List.mem_append.mp among with old | new
    · obtain ⟨p, same, inspected⟩ := h.events x old event told requestId snapshot opened
      exact ⟨p, same, inspected.mono _⟩
    · obtain rfl := List.mem_singleton.mp new
      obtain ⟨p, same, inspected⟩ := said event told requestId snapshot opened
      exact ⟨p, same, inspected.mono _⟩
  cases a with
  | start streamId opened failure =>
    cases s with
    | up _ _ => cases step
    | down database =>
      simp only [Incarnation.step] at step
      split at step
      · obtain ⟨rfl, rfl⟩ := Prod.mk.inj (Option.some.inj step)
        exact ⟨moreRows, moreEvents (by simp [IncarnationOutput.events]), by simp⟩
      · rename_i w created
        obtain ⟨rfl, rfl⟩ := Prod.mk.inj (Option.some.inj step)
        obtain ⟨life, disk⟩ := sourced_start (o := .started (.ok ())) h.rows created reliable
        refine ⟨?_, moreEvents (by simp [IncarnationOutput.events]), ?_⟩
        · rw [disk]
          exact moreRows
        · rintro _ _ ⟨⟩
          exact life
  | session action =>
    cases s with
    | down _ => cases step
    | up streamId w =>
      obtain ⟨⟨w', output⟩, ran, same⟩ := Option.map_eq_some_iff.mp step
      obtain ⟨rfl, rfl⟩ := Prod.mk.inj same
      have life := h.life streamId w rfl
      refine ⟨?_, moreEvents ?_, ?_⟩
      · intro row among
        exact life.rows_step h.rows ran among
      · intro event told requestId snapshot opened
        exact life.announces reliable ran told opened
      · rintro _ _ ⟨⟩
        exact life.steps reliable ran
  | dies =>
    cases s with
    | down _ => cases step
    | up streamId w =>
      obtain ⟨rfl, rfl⟩ := Prod.mk.inj (Option.some.inj step)
      exact ⟨moreRows, moreEvents (by simp [IncarnationOutput.events]), by simp⟩
  | diesSaving flag statements =>
    cases s with
    | down _ => cases step
    | up streamId w =>
      have life := h.life streamId w rfl
      simp only [Incarnation.step] at step
      split at step
      · rename_i p repo found store
        obtain ⟨call, running, returned⟩ := Option.map_eq_some_iff.mp found
        obtain ⟨_, _, inspected⟩ := life.pending ⟨call, running, returned⟩
        have disk : (Incarnation.up streamId w).database = repo.connection.database := by
          simp [Incarnation.database, store]
        have kept : ∀ row ∈ (StateRepository.saveProject p
            (repo.dying statements)).2.connection.database.projects,
            ∃ requestId p, row = projectParams p ∧
              InspectedIn (tr ++ [(.diesSaving flag statements, o)]) requestId p := by
          intro row among
          rcases rows_saveProject among with old | new
          · apply moreRows row
            rw [disk]
            exact old
          · exact ⟨_, p, new, inspected.mono _⟩
        split at step
        · rename_i repo' save
          obtain ⟨rfl, rfl⟩ := Prod.mk.inj (Option.some.inj step)
          rw [save] at kept
          exact ⟨kept, moreEvents (by simp [IncarnationOutput.events]), by simp⟩
        · rename_i e repo' save
          obtain ⟨rfl, rfl⟩ := Prod.mk.inj (Option.some.inj step)
          rw [save] at kept
          exact ⟨kept, moreEvents (by simp [IncarnationOutput.events]), by simp⟩
      · cases step

end Steps

end Kesharon.Daemon

import Kesharon.Daemon.Cancellation

namespace Kesharon.Daemon

open Framework Domain Protocol Application

/-- A call has returned a project that it has not saved yet. -/
def Pending {σ : Type} (w : World σ) (flag : FlagId) (p : Project) : Prop :=
  ∃ call, w.opens.lookup flag = some call ∧ call.execution = .returned (.ok p)

section Effects

variable {σ : Type} {w w' : World σ} {streamId : String}

/-- The part of a world that a session shares with its store. -/
structure SameStorage (w w' : World σ) : Prop where
  stateRepository : w'.stateRepository = w.stateRepository
  project : w'.state.project = w.state.project
  activeTask : w'.state.activeTask = w.state.activeTask

theorem SameStorage.refl (w : World σ) : SameStorage w w := ⟨rfl, rfl, rfl⟩

theorem emitLocked_storage {payload : DaemonEventPayload} {event : DaemonEvent}
    (h : w.emitLocked streamId payload = .ok (w', event)) : SameStorage w w' := by
  obtain ⟨_, sequence, sub, chans, rfl⟩ := World.emitLocked_frame h
  exact ⟨rfl, rfl, rfl⟩

theorem sequence_of_emitLocked {payload : DaemonEventPayload} {event : DaemonEvent}
    (h : w.emitLocked streamId payload = .ok (w', event)) : w.state.sequence ≠ u64Max := by
  intro exhausted
  simp [World.emitLocked, checkedSucc, exhausted] at h

theorem emitAndRespond_storage (streamId : String) (w : World σ) (requestId : String)
    (payload : DaemonEventPayload) (response : ServerResponse) :
    SameStorage w (w.emitAndRespond streamId requestId payload id response).world := by
  unfold World.emitAndRespond
  cases he : w.emitLocked streamId payload with
  | error e => exact .refl w
  | ok p => exact emitLocked_storage he

theorem completeSuccess_storage (streamId : String) (w : World σ) (requestId : String)
    (p : Project) :
    let settled := (w.completeSuccess streamId requestId p).world
    settled.stateRepository = w.stateRepository ∧ settled.state.activeTask = w.state.activeTask ∧
      (settled.state.project = w.state.project ∨
        w.state.sequence ≠ u64Max ∧ settled.state.project = some (snapshotOf p)) := by
  unfold World.completeSuccess World.emitAndRespond
  cases he : w.emitLocked streamId (.projectOpened requestId (snapshotOf p)) with
  | error e => exact ⟨rfl, rfl, .inl rfl⟩
  | ok q =>
    have same := emitLocked_storage he
    exact ⟨same.stateRepository, same.activeTask, .inr ⟨sequence_of_emitLocked he, rfl⟩⟩

theorem beginOpen_storage (w : World σ) (request : ClientRequest) (path : String) :
    SameStorage w (w.beginOpen streamId request path).1 := by
  unfold World.beginOpen
  cases request.idempotencyKey with
  | none => exact .refl w
  | some key =>
    dsimp only
    by_cases locked : w.statePoisoned
    · rw [if_pos locked]
      exact .refl w
    · rw [if_neg locked]
      cases w.state.admit key (.openProject path) request.requestId with
      | some response => exact .refl w
      | none =>
        dsimp only
        by_cases running : request.requestId ∈ w.state.active
        · rw [if_pos running]
          exact .refl w
        · rw [if_neg running]
          cases he : (w.register request.requestId path key).emitLocked streamId
              (.operationStarted request.requestId .openProject) with
          | error e => exact ⟨rfl, rfl, rfl⟩
          | ok p =>
            have same := emitLocked_storage he
            exact ⟨same.stateRepository, same.project, same.activeTask⟩

theorem dispatch_storage (w : World σ) (request : ClientRequest) :
    SameStorage w (w.dispatch streamId request).1 := by
  unfold World.dispatch
  cases request.method with
  | health => exact .refl w
  | subscribeEvents => exact .refl w
  | openProject path => exact beginOpen_storage w request path
  | cancelRequest target =>
    dsimp only
    rcases World.cancel_cases w request target with he | ⟨key, completion, _, _, _, _, he⟩
    · rw [he]
      exact .refl w
    · rw [he]
      exact ⟨rfl, rfl, rfl⟩

/-- What a step does to store and project: nothing, or it saves what a call has returned. -/
inductive StoreEffect [StateRepository σ] (w w' : World σ) : Action → Prop where
  | kept (a : Action) (store : w'.stateRepository = w.stateRepository)
      (project : w'.state.project = w.state.project) : StoreEffect w w' a
  | unstored (a : Action) (store : w.stateRepository = none) (store' : w'.stateRepository = none) :
      StoreEffect w w' a
  | saved (flag : FlagId) (p : Project) (repo : σ) (pending : Pending w flag p)
      (stateLock : w.statePoisoned = false) (repositoryLock : w.repositoryPoisoned = false)
      (store : w.stateRepository = some repo)
      (store' : w'.stateRepository = some (StateRepository.saveProject p repo).2)
      (project : w'.state.project = w.state.project ∨
        (StateRepository.saveProject p repo).1 = .ok () ∧ w.state.sequence ≠ u64Max ∧
          w'.state.project = some (snapshotOf p)) : StoreEffect w w' (.finish flag)

theorem finishOpen_storage [StateRepository σ] (streamId : String) {flag : FlagId} {call : OpenCall}
    {result : Except ApplicationError Project} (running : w.opens.lookup flag = some call)
    (here : call.execution = .returned result) :
    let finished := (w.finishOpen streamId flag call result).1
    finished.state.activeTask = w.state.activeTask ∧ StoreEffect w finished (.finish flag) := by
  dsimp only
  cases result with
  | error e =>
    have spared := World.finishOpen_error streamId w flag call e
    refine ⟨?_, .kept _ spared.2.2.2.2 spared.2.2.2.1⟩
    unfold World.finishOpen
    split_ifs
    · rfl
    · cases e <;> exact (emitAndRespond_storage streamId _ _ _ _).activeTask
  | ok p =>
    unfold World.finishOpen
    by_cases locked : w.statePoisoned
    · rw [if_pos locked]
      exact ⟨rfl, .kept _ rfl rfl⟩
    · rw [if_neg locked]
      simp only [World.settle]
      cases hr : w.stateRepository with
      | none =>
        have hs : (w.remove flag call).stateRepository = none := hr
        obtain ⟨store, task, _⟩ := completeSuccess_storage streamId (w.remove flag call)
          call.request.requestId p
        rw [hs]
        exact ⟨task, .unstored _ hr (store.trans hs)⟩
      | some repo =>
        have hs : (w.remove flag call).stateRepository = some repo := hr
        rw [hs]
        dsimp only
        by_cases poisoned : w.repositoryPoisoned
        · rw [if_pos (show (w.remove flag call).repositoryPoisoned = true from poisoned)]
          exact ⟨rfl, .kept _ rfl rfl⟩
        · rw [if_neg (show ¬ (w.remove flag call).repositoryPoisoned = true from poisoned)]
          have saves (finished : World σ)
              (store : finished.stateRepository = some (StateRepository.saveProject p repo).2)
              (project : finished.state.project = w.state.project ∨
                (StateRepository.saveProject p repo).1 = .ok () ∧ w.state.sequence ≠ u64Max ∧
                  finished.state.project = some (snapshotOf p)) :
              StoreEffect w finished (.finish flag) :=
            .saved flag p repo ⟨call, running, here⟩ (by simpa using locked) (by simpa using poisoned)
              hr store project
          cases hv : StateRepository.saveProject p repo with
          | mk answer repo' =>
            rw [hv] at saves
            cases answer with
            | ok u =>
              obtain ⟨store, task, project⟩ := completeSuccess_storage streamId
                ((w.remove flag call).setRepository (some repo')) call.request.requestId p
              exact ⟨task, saves _ store (project.imp_right fun opened => ⟨rfl, opened⟩)⟩
            | error e =>
              have same := emitAndRespond_storage streamId
                ((w.remove flag call).setRepository (some repo')) call.request.requestId
                (.operationFailed call.request.requestId (classifyApplicationError e).1
                  (classifyApplicationError e).2)
                (.failure call.request.requestId (classifyApplicationError e).1
                  (classifyApplicationError e).2)
              exact ⟨same.activeTask, saves _ same.stateRepository (.inl same.project)⟩

/-- No step touches the active task. -/
theorem step_storage [StateRepository σ] {a : Action} {o : Output}
    (h : w.step streamId a = some (w', o)) :
    w'.state.activeTask = w.state.activeTask ∧ StoreEffect w w' a := by
  have kept (same : SameStorage w w') :
      w'.state.activeTask = w.state.activeTask ∧ StoreEffect w w' a :=
    ⟨same.activeTask, .kept a same.stateRepository same.project⟩
  cases World.step_stepped h with
  | dispatched request => exact kept (dispatch_storage w request)
  | moved _ flag call execution running moves => exact kept ⟨rfl, rfl, rfl⟩
  | finished flag call result running returned => exact finishOpen_storage streamId running returned
  | subscribed =>
    apply kept
    unfold World.subscribe
    split_ifs <;> exact ⟨rfl, rfl, rfl⟩
  | received ch r c known alive recv => exact kept ⟨rfl, rfl, rfl⟩
  | hungUp ch known => exact kept ⟨rfl, rfl, rfl⟩
  | statePoisoned => exact kept ⟨rfl, rfl, rfl⟩
  | repositoryPoisoned => exact kept ⟨rfl, rfl, rfl⟩

end Effects

end Kesharon.Daemon

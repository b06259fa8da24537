import Kesharon.Daemon.CallEffects

namespace Kesharon.Daemon

open Framework Domain Protocol Application

/-- The project that a client shows after an event. -/
def projectAfter (event : DaemonEvent) (project : Option ProjectSnapshot) :
    Option ProjectSnapshot :=
  match event.payload with
  | .projectOpened _ opened => some opened
  | _ => project

/-- What is seen of a step: nothing, the start of an operation, or the end of one. -/
inductive Visible {σ : Type} (streamId : String) (w w' : World σ) : List DaemonEvent → Prop where
  | quiet (project : w'.state.project = w.state.project)
      (active : ∀ r, r ∈ w'.state.active → r ∈ w.state.active)
      (counter : w'.state.sequence = w.state.sequence) : Visible streamId w w' []
  | started (sequence : UInt64) (requestId : String) (flag : FlagId)
      (project : w'.state.project = w.state.project)
      (active : w'.state.active = w.state.active.insert requestId ⟨flag⟩)
      (next : checkedSucc w.state.sequence = some sequence)
      (counter : w'.state.sequence = sequence) :
      Visible streamId w w'
        [⟨PROTOCOL_VERSION,streamId,sequence,.operationStarted requestId .openProject⟩]
  | ended (sequence : UInt64) (payload : DaemonEventPayload) (terminal : payload.isStarted = false)
      (project : w'.state.project =
        projectAfter ⟨PROTOCOL_VERSION,streamId,sequence,payload⟩ w.state.project)
      (active : w'.state.active = w.state.active.erase payload.requestId)
      (next : checkedSucc w.state.sequence = some sequence)
      (counter : w'.state.sequence = sequence) :
      Visible streamId w w' [⟨PROTOCOL_VERSION,streamId,sequence,payload⟩]

namespace World

variable {σ : Type}

/-- What is seen of the end of a call: nothing, or an event that says what becomes of the project. -/
inductive Seen (streamId : String) (w : World σ) (requestId : String) : Settled σ → Prop where
  | lost {world : World σ} {response : ServerResponse}
      (project : world.state.project = w.state.project)
      (active : world.state.active = w.state.active)
      (counter : world.state.sequence = w.state.sequence) :
      Seen streamId w requestId ⟨world,response,[]⟩
  | said {world : World σ} {response : ServerResponse} (sequence : UInt64)
      (payload : DaemonEventPayload) (terminal : payload.isStarted = false)
      (named : payload.requestId = requestId)
      (project : world.state.project =
        projectAfter ⟨PROTOCOL_VERSION,streamId,sequence,payload⟩ w.state.project)
      (active : world.state.active = w.state.active)
      (next : checkedSucc w.state.sequence = some sequence)
      (counter : world.state.sequence = sequence) :
      Seen streamId w requestId
        ⟨world,response,[⟨PROTOCOL_VERSION,streamId,sequence,payload⟩]⟩

theorem emitLocked_seen {streamId : String} {w w' : World σ} {payload : DaemonEventPayload}
    {event : DaemonEvent} (h : w.emitLocked streamId payload = .ok (w', event)) :
    ∃ sequence, event = ⟨PROTOCOL_VERSION,streamId,sequence,payload⟩ ∧
      w'.state.project = w.state.project ∧ w'.state.active = w.state.active ∧
      checkedSucc w.state.sequence = some sequence ∧ w'.state.sequence = sequence := by
  unfold emitLocked at h
  cases next : checkedSucc w.state.sequence with
  | none => simp [next] at h
  | some n =>
    simp only [next, DaemonEvent.new] at h
    split_ifs at h
    obtain ⟨rfl, rfl⟩ := Prod.mk.inj (Except.ok.inj h)
    obtain ⟨sub, chans, delivered⟩ := deliver_frame
      { w with state := { w.state with sequence := n } } ⟨PROTOCOL_VERSION,streamId,n,payload⟩
    rw [delivered]
    exact ⟨n, rfl, rfl, rfl, rfl, rfl⟩

theorem emitAndRespond_seen {streamId requestId : String} {w : World σ}
    {payload : DaemonEventPayload} {after : World σ → World σ} {response : ServerResponse}
    (terminal : payload.isStarted = false) (named : payload.requestId = requestId)
    (keeps : ∀ v sequence, (after v).state.active = v.state.active ∧ (after v).state.project =
      projectAfter ⟨PROTOCOL_VERSION,streamId,sequence,payload⟩ v.state.project ∧
      (after v).state.sequence = v.state.sequence) :
    Seen streamId w requestId (w.emitAndRespond streamId requestId payload after response) := by
  unfold emitAndRespond
  cases emitted : w.emitLocked streamId payload with
  | error e => exact .lost rfl rfl rfl
  | ok p =>
    obtain ⟨w', event⟩ := p
    obtain ⟨sequence, rfl, project, active, next, counter⟩ := emitLocked_seen emitted
    obtain ⟨active', project', counter'⟩ := keeps w' sequence
    rw [project] at project'
    exact .said sequence payload terminal named project' (active'.trans active) next
      (counter'.trans counter)

/-- The store does not matter. -/
theorem Seen.of_store {streamId requestId : String} {w : World σ} {repo : Option σ}
    {settled : Settled σ} (h : Seen streamId (w.setRepository repo) requestId settled) :
    Seen streamId w requestId settled := by
  cases h with
  | lost project active counter => exact .lost project active counter
  | said sequence payload terminal named project active next counter =>
    exact .said sequence payload terminal named project active next counter

theorem settle_seen [StateRepository σ] (streamId : String) (w : World σ) (requestId : String)
    (result : Except ApplicationError Project) :
    Seen streamId w requestId (w.settle streamId requestId result).1 := by
  have success (repo : Option σ) (p : Project) : Seen streamId w requestId
      ((w.setRepository repo).completeSuccess streamId requestId p) :=
    .of_store (emitAndRespond_seen rfl rfl fun _ _ => ⟨rfl, rfl, rfl⟩)
  have failure (repo : Option σ) (e : ApplicationError) : Seen streamId w requestId
      ((w.setRepository repo).completeFailure streamId requestId e) :=
    .of_store (emitAndRespond_seen rfl rfl fun _ _ => ⟨rfl, rfl, rfl⟩)
  cases result with
  | error e =>
    cases e with
    | cancelled => exact emitAndRespond_seen rfl rfl fun _ _ => ⟨rfl, rfl, rfl⟩
    | repository message => exact failure w.stateRepository (.repository message)
    | invalidProject message => exact failure w.stateRepository (.invalidProject message)
    | storage message => exact failure w.stateRepository (.storage message)
    | vault message => exact failure w.stateRepository (.vault message)
  | ok p =>
    unfold settle
    dsimp only
    cases store : w.stateRepository with
    | none => exact success w.stateRepository p
    | some repo =>
      dsimp only
      split_ifs
      · exact .lost rfl rfl rfl
      · cases StateRepository.saveProject p repo with
        | mk answer repo' =>
          cases answer with
          | ok u => exact success (some repo') p
          | error e => exact failure (some repo') e

theorem beginOpen_visible (streamId : String) (w : World σ) (request : ClientRequest)
    (path : String) :
    Visible streamId w (w.beginOpen streamId request path).1
      (w.beginOpen streamId request path).2.events := by
  have refused (response : ServerResponse) :
      Visible streamId w (w.answer response).1 (w.answer response).2.events :=
    .quiet rfl (fun _ => id) rfl
  unfold beginOpen
  cases request.idempotencyKey with
  | none => exact refused _
  | some key =>
    dsimp only
    by_cases poisoned : w.statePoisoned = true
    · rw [if_pos poisoned]
      exact refused _
    · rw [if_neg poisoned]
      cases w.state.admit key (.openProject path) request.requestId with
      | some response => exact refused _
      | none =>
        dsimp only
        by_cases running : request.requestId ∈ w.state.active
        · rw [if_pos running]
          exact refused _
        · rw [if_neg running]
          cases emitted : (w.register request.requestId path key).emitLocked streamId
              (.operationStarted request.requestId .openProject) with
          | error e =>
            refine .quiet rfl ?_ rfl
            intro r among
            have kept : r ∈ (w.state.active.insert request.requestId ⟨w.flagCount⟩).erase
                request.requestId := among
            rw [AList.mem_erase] at kept
            rcases (AList.mem_insert _).mp kept.2 with same | there
            · exact absurd same kept.1
            · exact there
          | ok p =>
            obtain ⟨w', event⟩ := p
            obtain ⟨sequence, rfl, project, active, next, counter⟩ := emitLocked_seen emitted
            exact .started sequence request.requestId w.flagCount project active next counter

theorem finishOpen_visible [StateRepository σ] (streamId : String) (w : World σ) (flag : FlagId)
    (call : OpenCall) (result : Except ApplicationError Project) :
    Visible streamId w (w.finishOpen streamId flag call result).1
      (w.finishOpen streamId flag call result).2.events := by
  unfold finishOpen
  split_ifs
  · exact .quiet rfl (fun _ => id) rfl
  · have seen := (w.remove flag call).settle_seen streamId call.request.requestId result
    generalize (w.remove flag call).settle streamId call.request.requestId result = settled at seen ⊢
    obtain ⟨settled, saved⟩ := settled
    cases seen with
    | @lost world response project active counter =>
      refine .quiet project ?_ counter
      intro r among
      change r ∈ world.state.active at among
      have kept : world.state.active = w.state.active.erase call.request.requestId := active
      rw [kept, AList.mem_erase] at among
      exact among.2
    | said sequence payload terminal named project active next counter =>
      refine .ended sequence payload terminal project ?_ next counter
      rw [named]
      exact active

theorem step_visible [StateRepository σ] {streamId : String} {w w' : World σ} {a : Action}
    {o : Output} (step : w.step streamId a = some (w', o)) : Visible streamId w w' o.events := by
  cases step_stepped step with
  | dispatched request =>
    unfold dispatch
    cases request.method with
    | health => exact .quiet rfl (fun _ => id) rfl
    | subscribeEvents => exact .quiet rfl (fun _ => id) rfl
    | openProject path => exact beginOpen_visible streamId w request path
    | cancelRequest target =>
      dsimp only
      unfold cancel
      cases request.idempotencyKey with
      | none => exact .quiet rfl (fun _ => id) rfl
      | some key =>
        dsimp only
        split_ifs
        · exact .quiet rfl (fun _ => id) rfl
        · cases w.state.admit key (.cancelRequest target) request.requestId with
          | some response => exact .quiet rfl (fun _ => id) rfl
          | none => exact .quiet rfl (fun _ => id) rfl
  | moved _ flag call execution running moves => exact .quiet rfl (fun _ => id) rfl
  | finished flag call result running returned => exact finishOpen_visible streamId w flag call result
  | subscribed =>
    unfold subscribe
    split_ifs <;> exact .quiet rfl (fun _ => id) rfl
  | received ch r c known alive recv => exact .quiet rfl (fun _ => id) rfl
  | hungUp ch known => exact .quiet rfl (fun _ => id) rfl
  | statePoisoned => exact .quiet rfl (fun _ => id) rfl
  | repositoryPoisoned => exact .quiet rfl (fun _ => id) rfl

end World

end Kesharon.Daemon

import Kesharon.Workspace.Window

namespace Kesharon.Daemon.World

open Framework Protocol

variable {σ : Type} {w : World σ}

/-- A cancel request with a new key finds a target that is running. -/
theorem cancel_running {target key : String} (request : ClientRequest)
    (keyed : request.idempotencyKey = some key) (running : target ∈ w.state.active)
    (completed : key ∉ w.state.completed) (inFlight : key ∉ w.state.inFlight) :
    (w.cancel request target).2.response = some (
      if w.statePoisoned then internalError request.requestId
      else .success request.requestId (.cancellation target .accepted)) := by
  obtain ⟨operation, found⟩ := Option.isSome_iff_exists.mp (AList.lookup_isSome.mpr running)
  have fresh := (admit_none_iff w.state key (.cancelRequest target) request.requestId).mpr
    ⟨completed, inFlight⟩
  unfold cancel
  rw [keyed]
  dsimp only
  split_ifs
  · rfl
  · rw [fresh]
    simp [cancelTarget, found]

end Kesharon.Daemon.World

namespace Kesharon.Workspace

open Framework Application Daemon Protocol

theorem clientRequestId_not_uuid (now : Nat) : isUuid (clientRequestId now) = false := by
  have first : (clientRequestId now).toList =
      'r' :: ("eq-client-open-".toList ++ (toString now).toList) := by
    rw [clientRequestId, String.toList_append]
    rfl
  have letter : ('r' = '-' || 'r'.isDigit || 'a' ≤ 'r' && 'r' ≤ 'f') = false := by decide
  unfold isUuid
  rw [first, List.all_cons, letter, Bool.false_and, Bool.and_false]

/-- The request id on the card. -/
def cardId (state : WorkspaceState) : Option String :=
  state.openingOperation.map fun operation => operation.requestId

/-- The request id that a message gives the card. -/
def messageCard : StreamMessage → Option String
  | .snapshot snapshot =>
    (snapshot.activeOperations.find? fun op => op.kind = .openProject).map fun op => op.requestId
  | .event event => if event.payload.isStarted then some event.payload.requestId else none

/-- The request id that the stream has given the card, as long as nothing else is shown since. -/
def named (id : Option String) : Move × Effect → Option String
  | (.deliver, ⟨some message,_,_⟩) => messageCard message
  | (.choose (.ok none) _, _) => id
  | (.choose _ _, _) => none
  | (.reply _, _) => none
  | (.lost _ _, _) => none
  | _ => id

def namedBy (tr : List (Move × Effect)) : Option String := tr.foldl named none

theorem messageActions_card (state : WorkspaceState) (message : StreamMessage) :
    cardId (dispatchAll state (messageActions message)) = messageCard message := by
  cases message with
  | snapshot snapshot =>
    change ((snapshot.activeOperations.find? _).map _).map _ = _
    rw [Option.map_map]
    rfl
  | event event =>
    have card := applyEvent_openingOperation (workspaceReducer state (.setConnection (.ready none)))
      event
    change (WorkspaceState.applyEvent _ event).openingOperation.map _ = _
    rw [card]
    simp only [messageCard]
    split_ifs <;> rfl

theorem setOpeningStatus_card (state : WorkspaceState) (status : OpeningStatus) :
    cardId (workspaceReducer state (.setOpeningStatus status)) = cardId state := by
  cases shown : state.openingOperation with
  | none => simp only [workspaceReducer, shown]
  | some operation => simp [workspaceReducer, cardId, shown]

theorem openingAction_card (state : WorkspaceState) (response : ServerResponse) :
    cardId (workspaceReducer state (openingAction response)) = none := by
  unfold openingAction
  split_ifs
  · rfl
  · split <;> rfl

/-- An answer starts no call. -/
theorem running_of_answer {flag running : FlagId} {response : ServerResponse} {call : OpeningCall}
    {requestId : String} (h : (call.answer flag response).phase = .running requestId running) :
    call.phase = .running requestId running := by
  obtain ⟨clientId, path, phase⟩ := call
  cases phase with
  | calling => exact h
  | answered requestId' response' => exact h
  | running requestId' running' =>
    unfold OpeningCall.answer at h
    dsimp only at h
    split_ifs at h
    exact h

namespace Window

variable {σ : Type} {d d' : Window σ} {id : Option String}

/-- The card has its id from the stream, or it is one that `chooseAndOpen` has put there. -/
def Carded (id : Option String) (d : Window σ) : Prop :=
  cardId d.ui = id ∨ id = none ∧ ∃ now, cardId d.ui = some (clientRequestId now)

theorem Carded.of_same (h : d.Carded id) (same : cardId d'.ui = cardId d.ui) : d'.Carded id := by
  unfold Carded
  rw [same]
  exact h

/-- The host's calls run under ids of its own. -/
def HostIds (d : Window σ) : Prop :=
  ∀ call ∈ d.calls, ∀ requestId flag, call.phase = .running requestId flag → isUuid requestId = true

theorem HostIds.erase (h : d.HostIds) (i : Nat) : HostIds { d with calls := d.calls.eraseIdx i } := by
  intro call among
  exact h call (List.mem_of_mem_eraseIdx among)

theorem hostIds_answered (h : d.HostIds) (a : Action) (response : Option ServerResponse) :
    HostIds { d with calls := answered d.calls a response } := by
  unfold answered
  split
  · rename_i flag response
    intro call among requestId running phase
    obtain ⟨before, there, rfl⟩ := List.mem_map.mp among
    exact h before there requestId running (running_of_answer phase)
  · exact h

theorem hostIds_callReaches {streamId requestId key : String} {i : Nat} {call : OpeningCall}
    (h : d.HostIds) (uuid : isUuid requestId = true) :
    (d.callReaches streamId i call requestId key).HostIds := by
  intro other among r flag phase
  unfold callReaches at among
  rcases List.mem_or_eq_of_mem_set among with there | rfl
  · exact h other there r flag phase
  · dsimp only at phase
    split at phase
    · cases phase
    · cases phase
      exact uuid

/-- A move gives the card the id of the message it delivers, or the one of `chooseAndOpen`. -/
theorem carded_step [StateRepository σ] {streamId : String} {m : Move} {e : Effect}
    (h : d.Carded id) (step : d.step streamId m = some (d', e)) : d'.Carded (named id (m, e)) := by
  cases step_moved step with
  | delivered message rest pending => exact .inl (messageActions_card d.ui message)
  | chosen answer now =>
    cases answer with
    | error message => exact .inl rfl
    | ok path =>
      cases path with
      | none => exact h
      | some path => exact .inr ⟨rfl, now, rfl⟩
  | replied i clientId path requestId response found => exact .inl (openingAction_card _ _)
  | lost i message => exact .inl rfl
  | cancelled operation shown => exact h.of_same (setOpeningStatus_card _ _)
  | _ => exact h.of_same rfl

theorem hostIds_step [StateRepository σ] {streamId : String} {m : Move} {e : Effect}
    (h : d.HostIds) (step : d.step streamId m = some (d', e)) : d'.HostIds := by
  cases step_moved step with
  | daemon a daemon output steps => exact hostIds_answered h a output.response
  | chosen answer now =>
    cases answer with
    | error message => exact h
    | ok path =>
      cases path with
      | none => exact h
      | some path =>
        intro call among requestId flag phase
        rcases List.mem_append.mp among with there | here
        · exact h call there requestId flag phase
        · obtain rfl := List.mem_singleton.mp here
          cases phase
  | callReached i call requestId key found calling uuid => exact hostIds_callReaches h uuid
  | replied i clientId path requestId response found => exact h.erase i
  | lost i message => exact h.erase i
  | _ => exact h

end Window

section Runs

variable {σ : Type} [StateRepository σ] {streamId : String} {d d' : Window σ}
variable {tr : List (Move × Effect)}

theorem run_carded (w : World σ) (run : (window σ streamId).Run Machine.anyStep (.start w) tr d) :
    d.Carded (namedBy tr) ∧ d.HostIds := by
  apply run.history (P := fun tr d => Window.Carded (namedBy tr) d ∧ Window.HostIds d)
  · refine ⟨.inl rfl, ?_⟩
    intro call among
    cases among
  · intro tr t m u e h _ step
    have append : namedBy (tr ++ [(m, e)]) = named (namedBy tr) (m, e) := List.foldl_concat ..
    rw [append]
    exact ⟨Window.carded_step h.1 step, Window.hostIds_step h.2 step⟩

/-- A cancellation asks for the id of a call that the daemon runs, exactly if the last thing rendered
that wrote the card was a message that gave it this id. The daemon then accepts it, as long as it runs
the call. -/
theorem cancel_reaches_iff (w : World σ)
    (run : (window σ streamId).Run Machine.anyStep (.start w) tr d) {call : OpeningCall}
    {requestId : String} {flag : FlagId} (among : call ∈ d.calls)
    (running : call.phase = .running requestId flag) {e : Effect} {target : String}
    (step : (window σ streamId).step d .cancelOpening = some (d', e))
    (issued : e.target = some target) :
    (target = requestId ∧ ∀ (v v' : Window σ) i cancelId key e',
      (window σ streamId).step v (.cancelReaches i cancelId key) = some (v', e') →
      e'.target = some target → requestId ∈ v.daemon.state.active →
      key ∉ v.daemon.state.completed → key ∉ v.daemon.state.inFlight →
      e'.answer = some (
        if v.daemon.statePoisoned then internalError cancelId
        else .success cancelId (.cancellation requestId .accepted))) ↔
      namedBy tr = some requestId := by
  obtain ⟨carded, hostIds⟩ := run_carded w run
  have shown : cardId d.ui = some target := by
    have moved : Window.Moved streamId d .cancelOpening d' e := Window.step_moved step
    cases moved with
    | cancelled operation shown =>
      rw [← issued]
      simp [cardId, shown]
    | nothingCancelled => cases issued
  constructor
  · rintro ⟨rfl, -⟩
    rcases carded with same | ⟨_, now, made⟩
    · rw [← same]
      exact shown
    · have uuid := hostIds call among target flag running
      have own : target = clientRequestId now := Option.some.inj (shown.symm.trans made)
      rw [own, clientRequestId_not_uuid] at uuid
      cases uuid
  · intro name
    have same : target = requestId := by
      rcases carded with same | ⟨none, _⟩
      · rw [shown, name] at same
        exact Option.some.inj same
      · rw [name] at none
        cases none
    subst same
    refine ⟨rfl, ?_⟩
    intro v v' i cancelId key e' reaches asked active completed inFlight
    have moved : Window.Moved streamId v (.cancelReaches i cancelId key) v' e' :=
      Window.step_moved reaches
    cases moved with
    | cancelReached _ other _ _ request made =>
      subst made
      obtain rfl := Option.some.inj asked
      exact World.cancel_running _ rfl active completed inFlight

end Runs

/-- A project is chosen, and the daemon has begun to open it. -/
def choosing : List Move := [
  .subscribe [],
  .deliver,
  .choose (.ok (some "/p")) 7,
  .callReaches 0 "0190a5b2-7c3d-7e4f-8a1b-2c3d4e5f6a7b" "k"]

theorem cancel_reaches_started :
    ∃ tr d d' e, (window Empty "s").Run Machine.anyStep (.start .new) tr d ∧
      (window Empty "s").step d .cancelOpening = some (d', e) ∧
      e.target = some "0190a5b2-7c3d-7e4f-8a1b-2c3d4e5f6a7b" := by
  have runs : ((window Empty "s").exec Machine.anyStep (.start .new)
      (choosing ++ [.deliver])).isSome := by decide +kernel
  have run := Machine.run_of_exec_isSome _ _ _ _ runs
  have step : (window Empty "s").step (((window Empty "s").exec Machine.anyStep (.start .new)
      (choosing ++ [.deliver])).get runs).2 .cancelOpening = some (_, _) := rfl
  have reaches := (cancel_reaches_iff .new run (List.mem_singleton.mpr rfl) rfl step rfl).mpr rfl
  exact ⟨_, _, _, _, run, step, congrArg some reaches.1⟩

/-- The user cancels before the event of the start has come. -/
theorem early_cancel_not_found :
    ∃ tr d d' e, (window Empty "s").Run Machine.anyStep (.start .new) tr d ∧
      "0190a5b2-7c3d-7e4f-8a1b-2c3d4e5f6a7b" ∈ d.daemon.state.active ∧
      (window Empty "s").step d (.cancelReaches 0 "c" "l") = some (d', e) ∧
      e.target = some "req-client-open-7" ∧
      e.answer = some (.success "c" (.cancellation "req-client-open-7" .notFound)) := by
  have run := Machine.run_of_exec_isSome (window Empty "s") Machine.anyStep (.start .new)
    (choosing ++ [.cancelOpening]) (by decide +kernel)
  exact ⟨_, _, _, _, run, List.mem_singleton.mpr rfl, rfl, rfl, rfl⟩

end Kesharon.Workspace

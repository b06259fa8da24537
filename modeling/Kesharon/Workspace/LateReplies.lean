import Kesharon.Workspace.Tracking
import Kesharon.Workspace.Window

namespace Kesharon.Workspace

open Framework Application Daemon Protocol

/-- The project shown behind a message. -/
def projectBehind (message : StreamMessage) (project : Option ProjectSnapshot) :
    Option ProjectSnapshot :=
  match message with
  | .snapshot snapshot => snapshot.project
  | .event event => projectAfter event project

/-- A message behind which the project is the same whatever it was before. -/
def setsProject : StreamMessage → Bool
  | .snapshot _ => true
  | .event ⟨_,_,_,.projectOpened _ _⟩ => true
  | .event _ => false

def projectBehindAll (messages : List StreamMessage) (project : Option ProjectSnapshot) :
    Option ProjectSnapshot :=
  messages.foldl (fun project message => projectBehind message project) project

theorem projectBehindAll_append (xs ys : List StreamMessage) (project : Option ProjectSnapshot) :
    projectBehindAll (xs ++ ys) project = projectBehindAll ys (projectBehindAll xs project) :=
  List.foldl_append

theorem messageActions_project (state : WorkspaceState) (message : StreamMessage) :
    (dispatchAll state (messageActions message)).project = projectBehind message state.project := by
  cases message with
  | snapshot snapshot => rfl
  | event event => exact applyEvent_project _ event

theorem projectBehind_of_sets {message : StreamMessage} (sets : setsProject message = true)
    (p q : Option ProjectSnapshot) : projectBehind message p = projectBehind message q := by
  cases message with
  | snapshot snapshot => rfl
  | event event =>
    obtain ⟨version, streamId, sequence, payload⟩ := event
    cases payload with
    | projectOpened requestId opened => rfl
    | operationStarted requestId kind => cases sets
    | operationCancelled requestId => cases sets
    | operationFailed requestId code text => cases sets

theorem projectBehind_of_keeps {message : StreamMessage} (keeps : setsProject message = false)
    (p : Option ProjectSnapshot) : projectBehind message p = p := by
  cases message with
  | snapshot snapshot => cases keeps
  | event event =>
    obtain ⟨version, streamId, sequence, payload⟩ := event
    cases payload with
    | projectOpened requestId opened => cases keeps
    | operationStarted requestId kind => rfl
    | operationCancelled requestId => rfl
    | operationFailed requestId code text => rfl

/-- The messages on their way lead from one project where another does, exactly if one of them
sets the project or it is the right one already. -/
theorem projectBehindAll_iff {messages : List StreamMessage} {p q r : Option ProjectSnapshot}
    (leads : projectBehindAll messages p = r) :
    projectBehindAll messages q = r ↔ messages.any setsProject = true ∨ q = r := by
  induction messages generalizing p q with
  | nil =>
    change q = r ↔ _
    simp
  | cons message rest ih =>
    have behind := @ih (projectBehind message p) (projectBehind message q) leads
    change projectBehindAll rest (projectBehind message q) = r ↔ _
    rw [behind, List.any_cons]
    by_cases sets : setsProject message = true
    · rw [projectBehind_of_sets sets q p]
      have same := @ih (projectBehind message p) (projectBehind message p) leads
      have reached := same.mp leads
      rw [sets, Bool.true_or]
      exact ⟨fun _ => .inl rfl, fun _ => reached⟩
    · have keeps : setsProject message = false := by simpa using sets
      rw [projectBehind_of_keeps keeps, keeps, Bool.false_or]

namespace Window

variable {σ : Type}

/-- What is on its way brings the window to the daemon's project. -/
def Reconciles (d : Window σ) : Prop :=
  d.attached = true → projectBehindAll d.stream d.ui.project = d.daemon.state.project

/-- The project in a reply is the daemon's, or what is on its way will set it right. -/
def keepsProject (d : Window σ) (response : ServerResponse) : Bool :=
  match openingAction response with
  | .projectOpened project =>
    !d.attached || d.stream.any setsProject || d.daemon.state.project = some project
  | _ => true

/-- The card is that of an open that has not ended, and not the one that this reply is for. -/
def showsOther (d : Window σ) (requestId : String) (operation : OpeningOperationState) : Bool :=
  operation.requestId ∈ d.daemon.state.active && operation.requestId ≠ requestId ||
    d.calls.any fun call => call.clientId = operation.requestId && !call.phase.isAnswered

def keepsCard (d : Window σ) (requestId : String) : Bool :=
  match d.ui.openingOperation with
  | some operation => !d.showsOther requestId operation
  | none => true

def keepsUp (d : Window σ) : Move → Bool
  | .reply i =>
    match d.calls[i]? with
    | some ⟨_,_,.answered requestId response⟩ => d.keepsProject response && d.keepsCard requestId
    | _ => true
  | _ => true

abbrev KeepsUp (d : Window σ) (m : Move) (_ : Window σ) : Prop := d.keepsUp m = true

theorem reconciles_follow [StateRepository σ] {streamId : String} {d : Window σ} {w : World σ}
    {a : Action} {o : Output} (h : d.Reconciles) (step : d.daemon.step streamId a = some (w, o)) :
    (d.follow w o.events).Reconciles := by
  intro attached
  have on : d.attached = true := attached
  have stream : (d.follow w o.events).stream = d.stream ++ o.events.map .event := if_pos on
  rw [stream, projectBehindAll_append]
  have here := h on
  change projectBehindAll (o.events.map .event) (projectBehindAll d.stream d.ui.project) =
    w.state.project
  rw [here]
  have visible := World.step_visible step
  generalize o.events = events at visible
  cases visible with
  | quiet project _ _ => exact project.symm
  | started sequence requestId flag project _ _ _ => exact project.symm
  | ended sequence payload _ project _ _ _ => exact project.symm

theorem reconciles_dispatch {d : Window σ} {action : WorkspaceAction} (h : d.Reconciles)
    (same : (workspaceReducer d.ui action).project = d.ui.project) :
    (d.dispatch action).Reconciles := by
  intro attached
  change projectBehindAll d.stream (workspaceReducer d.ui action).project = d.daemon.state.project
  rw [same]
  exact h attached

/-- A reply does no harm exactly if its project is right or will be set right. -/
theorem reconciles_reply_iff {d : Window σ} (response : ServerResponse) (h : d.Reconciles) :
    (d.dispatch (openingAction response)).Reconciles ↔ d.keepsProject response = true := by
  unfold keepsProject
  have failed (message : String) : (d.dispatch (.openingFailed message)).Reconciles :=
    reconciles_dispatch h rfl
  cases reply : openingAction response with
  | projectOpened project =>
    cases attached : d.attached with
    | false => simp [Reconciles, dispatch, attached]
    | true =>
      have leads := @projectBehindAll_iff _ _ (some project) _ (h attached)
      change (d.attached = true → projectBehindAll d.stream (some project) =
        d.daemon.state.project) ↔ _
      rw [leads, attached]
      simp only [forall_const, Bool.not_true, Bool.false_or, Bool.or_eq_true, decide_eq_true_eq]
      rw [eq_comm (a := some project)]
  | openingFailed message => simp [failed message]
  | _ =>
    unfold openingAction at reply
    split_ifs at reply
    split at reply <;> cases reply

/-- The replies and the messages of the stream apart, no move touches the project. -/
theorem reconciles_step [StateRepository σ] {streamId : String} {d d' : Window σ} {m : Move}
    {e : Effect} (h : d.Reconciles) (ok : d.keepsUp m = true)
    (step : d.step streamId m = some (d', e)) : d'.Reconciles := by
  cases step_moved step with
  | daemon a daemon output steps => exact reconciles_follow h steps
  | subscribed operations snapshot channel subscribes listed =>
    unfold World.subscribe at subscribes ⊢
    by_cases poisoned : d.daemon.statePoisoned = true
    · simp [poisoned] at subscribes
    · rw [if_neg poisoned] at subscribes ⊢
      obtain ⟨rfl, rfl⟩ := Prod.mk.inj (Except.ok.inj (Option.some.inj subscribes))
      intro _
      dsimp only
      rw [projectBehindAll_append]
      rfl
  | disconnected kept =>
    intro attached
    cases attached
  | delivered message rest pending =>
    intro attached
    have leads := h attached
    rw [pending] at leads
    dsimp only
    rw [messageActions_project]
    exact leads
  | chosen answer now =>
    cases answer with
    | error message => exact reconciles_dispatch h rfl
    | ok path =>
      cases path with
      | none => exact h
      | some path => exact @reconciles_dispatch _ d (.startOpening (clientRequestId now) path) h rfl
  | callReached i call requestId key found calling uuid =>
    let request : ClientRequest := ⟨PROTOCOL_VERSION,requestId,.openProject call.path,some key⟩
    have steps : d.daemon.step streamId (.dispatch request) =
      some (d.daemon.dispatch streamId request) := rfl
    exact reconciles_follow h steps
  | replied i clientId path requestId response found =>
    have keeps : d.keepsProject response = true := by
      simp only [keepsUp, found, Bool.and_eq_true] at ok
      exact ok.1
    exact (reconciles_reply_iff response h).mpr keeps
  | lost i message => exact @reconciles_dispatch _ d (.openingFailed message) h rfl
  | cancelled operation shown =>
    refine @reconciles_dispatch _ d (.setOpeningStatus .cancelling) h ?_
    simp only [workspaceReducer, shown]
  | nothingCancelled => exact h
  | cancelReached i target requestId key request made =>
    have steps : d.daemon.step streamId (.dispatch request) =
      some (d.daemon.dispatch streamId request) := rfl
    exact reconciles_follow h steps
  | connectionSet connection => exact reconciles_dispatch h rfl
  | goalSet goal => exact reconciles_dispatch h rfl
  | errorCleared => exact reconciles_dispatch h rfl

end Window

section Runs

variable {σ : Type} [StateRepository σ] {streamId : String} {d d' : Window σ}

/-- Every reply takes the card away. -/
theorem reply_clears {i : Nat} {e : Effect} (step : d.step streamId (.reply i) = some (d', e)) :
    d'.ui.openingOperation = none := by
  cases Window.step_moved step with
  | replied i clientId path requestId response found =>
    change (workspaceReducer d.ui (openingAction response)).openingOperation = none
    unfold openingAction
    split_ifs
    · rfl
    · split <;> rfl

/-- In a run whose replies all keep up with the stream, a window that has had every message and
every reply shows the daemon's project. A reply leaves the card of another open alone exactly if
there is none. -/
theorem late_replies (w : World σ) {tr : List (Move × Effect)}
    (run : (window σ streamId).Run Window.KeepsUp (.start w) tr d) :
    (d.attached = true → d.stream = [] → d.calls = [] → d.ui.project = d.daemon.state.project) ∧
    ∀ i clientId path requestId response d' e,
      d.calls[i]? = some ⟨clientId,path,.answered requestId response⟩ →
      (window σ streamId).step d (.reply i) = some (d', e) →
      ((∀ operation, d.ui.openingOperation = some operation →
          d.showsOther requestId operation = true →
          d'.ui.openingOperation = some operation ∧ d'.ui.openingError = d.ui.openingError) ↔
        d.keepsCard requestId = true) := by
  have reconciles : d.Reconciles := by
    apply run.invariant (I := Window.Reconciles)
    · intro attached
      cases attached
    · intro t m u e h ok step
      exact Window.reconciles_step h ok step
  constructor
  · intro attached delivered _
    have leads := reconciles attached
    rw [delivered] at leads
    exact leads
  · intro i clientId path requestId response d' e _ step
    have gone : d'.ui.openingOperation = none := @reply_clears _ _ streamId _ _ _ _ step
    unfold Window.keepsCard
    cases shown : d.ui.openingOperation with
    | none => simp
    | some operation =>
      simp only [Option.some.injEq, forall_eq', gone, reduceCtorEq, false_and, imp_false,
        Bool.not_eq_true, Bool.not_eq_true']

end Runs

/-- A choice of a project, up to where the daemon has opened it. -/
def opening (i : Nat) (path requestId : String) (flag : FlagId) : List Move := [
  .choose (.ok (some path)) flag,
  .callReaches i requestId requestId,
  .daemon (.firstCheck flag),
  .daemon (.inspectReturns flag (.ok ⟨path,path⟩)),
  .daemon (.secondCheck flag requestId),
  .daemon (.finish flag)]

/-- A reply behind the events of its open. -/
theorem late_replies_one : ∃ tr d, (window Empty "s").Run Window.KeepsUp (.start .new) tr d ∧
    d.ui.project = d.daemon.state.project ∧ d.ui.project ≠ none := by
  have run := Machine.run_of_exec_isSome (window Empty "s") Window.KeepsUp (.start .new)
    ([.subscribe [], .deliver] ++ opening 0 "/p" "0190a5b2-7c3d-7e4f-8a1b-2c3d4e5f6a7b" 0 ++
      [.deliver, .deliver, .reply 0]) (by decide +kernel)
  refine ⟨_, _, run, (late_replies .new run).1 ?_ ?_ ?_, ?_⟩ <;> decide +kernel

/-- Of two replies the first comes last. -/
theorem late_reply_rolls_back :
    ∃ tr d, (window Empty "s").Run Machine.anyStep (.start .new) tr d ∧
      d.attached = true ∧ d.stream = [] ∧ d.calls = [] ∧
      d.ui.project ≠ d.daemon.state.project ∧
      d.ui.lastSequence = d.daemon.state.sequence.toNat := by
  have run := Machine.run_of_exec_isSome (window Empty "s") Machine.anyStep (.start .new)
    ([.subscribe [], .deliver] ++ opening 0 "/p" "0190a5b2-7c3d-7e4f-8a1b-2c3d4e5f6a7b" 0 ++
      [.deliver, .deliver] ++ opening 1 "/q" "0190a5b2-7c3d-7e4f-8a1b-2c3d4e5f6a7c" 1 ++
      [.deliver, .deliver, .reply 1, .reply 0]) (by decide +kernel)
  refine ⟨_, _, run, ?_⟩
  decide +kernel

end Kesharon.Workspace

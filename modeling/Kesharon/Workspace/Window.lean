import Kesharon.Daemon.Visible
import Kesharon.Workspace.Reducer

namespace Kesharon.Workspace

open Framework Application Daemon Protocol

/-- `Uuid::to_string`: lower-case hexadecimal digits in five groups. -/
def isUuid (text : String) : Bool :=
  (text.toList.splitBy fun a b => (a = '-') = (b = '-')).map (fun group => group.length) =
      [8,1,4,1,4,1,4,1,12] &&
    text.toList.all fun c => c = '-' || c.isDigit || 'a' ≤ c && c ≤ 'f'

/-- `req-client-open-${Date.now()}` -/
def clientRequestId (now : Nat) : String := "req-client-open-" ++ toString now

/-- Where a call of `bridge.openProject` is. -/
inductive CallPhase where
  | calling
  | running (requestId : String) (flag : FlagId)
  | answered (requestId : String) (response : ServerResponse)
  deriving DecidableEq, Repr

def CallPhase.isAnswered : CallPhase → Bool
  | .answered _ _ => true
  | _ => false

/-- A `chooseAndOpen` that waits for its project. -/
structure OpeningCall where
  clientId : String
  path : String
  phase : CallPhase
  deriving DecidableEq, Repr

/-- The call of the daemon behind a flag has been answered. -/
def OpeningCall.answer (flag : FlagId) (response : ServerResponse) (call : OpeningCall) :
    OpeningCall :=
  match call.phase with
  | .running requestId running =>
    if running = flag then { call with phase := .answered requestId response } else call
  | _ => call

/-- `decodeProjectOpenResponse`, and what `chooseAndOpen` dispatches behind it. -/
def openingAction (response : ServerResponse) : WorkspaceAction :=
  if response.protocolVersion ≠ PROTOCOL_VERSION then
    .openingFailed
      ("Unsupported protocol version " ++ toString response.protocolVersion.toNat)
  else
    match response.result, response.error with
    | some (.projectOpened project), none => .projectOpened project
    | none, some error => .openingFailed error.message
    | _, _ => .openingFailed "Malformed daemon response"

/-- A window and its daemon: the messages that are still on their way, what the window shows,
the opens that wait for their reply, and the targets of the cancellations on their way. -/
structure Window (σ : Type) where
  daemon : World σ
  attached : Bool
  stream : List StreamMessage
  ui : WorkspaceState
  calls : List OpeningCall
  cancels : List String

/-- What happens around a window. The daemon's own steps include the requests of other clients. A
window that is replaced, too slow or cut off is disconnected; it may still get what was on its
way. -/
inductive Move where
  | daemon (a : Action)
  | subscribe (operations : List OperationSnapshot)
  | disconnect (kept : Nat)
  | deliver
  | setConnection (connection : ConnectionState)
  | choose (answer : Except String (Option String)) (now : Nat)
  | callReaches (i : Nat) (requestId key : String)
  | reply (i : Nat)
  | lost (i : Nat) (message : String)
  | cancelOpening
  | cancelReaches (i : Nat) (requestId key : String)
  | setTaskGoal (goal : String)
  | clearError

/-- What is seen of a move: the message delivered, the target of a cancellation, and the answer
to one. -/
structure Effect where
  delivered : Option StreamMessage := none
  target : Option String := none
  answer : Option ServerResponse := none

namespace Window

variable {σ : Type}

def start (w : World σ) : Window σ := ⟨w,false,[],initialState,[],[]⟩

def dispatch (d : Window σ) (action : WorkspaceAction) : Window σ :=
  { d with ui := workspaceReducer d.ui action }

/-- The daemon has moved; an attached window will hear of its events. -/
def follow (d : Window σ) (daemon : World σ) (events : List DaemonEvent) : Window σ :=
  { d with
    daemon := daemon
    stream := if d.attached then d.stream ++ events.map .event else d.stream }

/-- A call that ends has its response. -/
def answered (calls : List OpeningCall) : Action → Option ServerResponse → List OpeningCall
  | .finish flag, some response => calls.map (OpeningCall.answer flag response)
  | _, _ => calls

/-- `chooseAndOpen`, from where the dialog has been answered. -/
def choose (d : Window σ) (now : Nat) : Except String (Option String) → Window σ
  | .ok none => d
  | .ok (some path) =>
    let d' := d.dispatch (.startOpening (clientRequestId now) path)
    { d' with calls := d.calls ++ [⟨clientRequestId now,path,.calling⟩] }
  | .error message => d.dispatch (.openingFailed message)

/-- `bridge.openProject`: the host makes up a request id of its own. -/
def callReaches (streamId : String) (d : Window σ) (i : Nat) (call : OpeningCall)
    (requestId key : String) : Window σ :=
  let request : ClientRequest := ⟨PROTOCOL_VERSION,requestId,.openProject call.path,some key⟩
  let (daemon, output) := d.daemon.dispatch streamId request
  let phase : CallPhase := match output.response with
    | some response => .answered requestId response
    | none => .running requestId d.daemon.flagCount
  let d' := d.follow daemon output.events
  { d' with calls := d.calls.set i { call with phase := phase } }

/-- What is dispatched is rendered in the same step: `cancelOpening` reads the state of the last
render, and a press before a render comes before its message. -/
def step [StateRepository σ] (streamId : String) (d : Window σ) : Move → Option (Window σ × Effect)
  | .daemon a =>
    match d.daemon.step streamId a with
    | some (daemon, output) =>
      let d' := d.follow daemon output.events
      some ({ d' with calls := answered d.calls a output.response }, {})
    | none => none
  | .subscribe operations =>
    let (daemon, output) := d.daemon.subscribe streamId
    match output.subscribed with
    | some (.ok (snapshot, _)) =>
      if operations.Perm snapshot.activeOperations then
        let message := StreamMessage.snapshot { snapshot with activeOperations := operations }
        some ({ d with daemon := daemon, attached := true, stream := d.stream ++ [message] }, {})
      else none
    | _ => none
  | .disconnect kept => some ({ d with attached := false, stream := d.stream.take kept }, {})
  | .deliver =>
    match d.stream with
    | [] => none
    | message :: rest =>
      some ({ d with stream := rest, ui := dispatchAll d.ui (messageActions message) },
        { delivered := some message })
  | .setConnection connection => some (d.dispatch (.setConnection connection), {})
  | .choose answer now => some (d.choose now answer, {})
  | .callReaches i requestId key =>
    match d.calls[i]? with
    | some call =>
      if call.phase = .calling ∧ isUuid requestId then
        some (d.callReaches streamId i call requestId key, {})
      else none
    | none => none
  | .reply i =>
    match d.calls[i]? with
    | some ⟨_,_,.answered _ response⟩ =>
      let d' := d.dispatch (openingAction response)
      some ({ d' with calls := d.calls.eraseIdx i }, {})
    | _ => none
  | .lost i message =>
    match d.calls[i]? with
    | some _ =>
      let d' := d.dispatch (.openingFailed message)
      some ({ d' with calls := d.calls.eraseIdx i }, {})
    | none => none
  | .cancelOpening =>
    match d.ui.openingOperation with
    | some operation =>
      let d' := d.dispatch (.setOpeningStatus .cancelling)
      some ({ d' with cancels := d.cancels ++ [operation.requestId] },
        { target := some operation.requestId })
    | none => some (d, {})
  | .cancelReaches i requestId key =>
    match d.cancels[i]? with
    | some target =>
      let request : ClientRequest := ⟨PROTOCOL_VERSION,requestId,.cancelRequest target,some key⟩
      let (daemon, output) := d.daemon.dispatch streamId request
      let d' := d.follow daemon output.events
      some ({ d' with cancels := d.cancels.eraseIdx i },
        { target := some target, answer := output.response })
    | none => none
  | .setTaskGoal goal => some (d.dispatch (.setTaskGoal goal), {})
  | .clearError => some (d.dispatch .clearError, {})

/-- Everything one move can do. -/
inductive Moved [StateRepository σ] (streamId : String) (d : Window σ) :
    Move → Window σ → Effect → Prop where
  | daemon (a : Action) (daemon : World σ) (output : Output)
      (steps : d.daemon.step streamId a = some (daemon, output)) :
      Moved streamId d (.daemon a)
        { d.follow daemon output.events with calls := answered d.calls a output.response } {}
  | subscribed (operations : List OperationSnapshot) (snapshot : WorkspaceSnapshot)
      (channel : ChannelId)
      (subscribes : (d.daemon.subscribe streamId).2.subscribed = some (.ok (snapshot, channel)))
      (listed : operations.Perm snapshot.activeOperations) :
      Moved streamId d (.subscribe operations)
        { d with
          daemon := (d.daemon.subscribe streamId).1
          attached := true
          stream := d.stream ++ [.snapshot { snapshot with activeOperations := operations }] } {}
  | disconnected (kept : Nat) :
      Moved streamId d (.disconnect kept)
        { d with attached := false, stream := d.stream.take kept } {}
  | delivered (message : StreamMessage) (rest : List StreamMessage)
      (pending : d.stream = message :: rest) :
      Moved streamId d .deliver
        { d with stream := rest, ui := dispatchAll d.ui (messageActions message) }
        { delivered := some message }
  | connectionSet (connection : ConnectionState) :
      Moved streamId d (.setConnection connection) (d.dispatch (.setConnection connection)) {}
  | chosen (answer : Except String (Option String)) (now : Nat) :
      Moved streamId d (.choose answer now) (d.choose now answer) {}
  | callReached (i : Nat) (call : OpeningCall) (requestId key : String)
      (found : d.calls[i]? = some call) (calling : call.phase = .calling)
      (uuid : isUuid requestId = true) :
      Moved streamId d (.callReaches i requestId key)
        (d.callReaches streamId i call requestId key) {}
  | replied (i : Nat) (clientId path requestId : String) (response : ServerResponse)
      (found : d.calls[i]? = some ⟨clientId,path,.answered requestId response⟩) :
      Moved streamId d (.reply i)
        { d.dispatch (openingAction response) with calls := d.calls.eraseIdx i } {}
  | lost (i : Nat) (message : String) :
      Moved streamId d (.lost i message)
        { d.dispatch (.openingFailed message) with calls := d.calls.eraseIdx i } {}
  | cancelled (operation : OpeningOperationState)
      (shown : d.ui.openingOperation = some operation) :
      Moved streamId d .cancelOpening
        { d.dispatch (.setOpeningStatus .cancelling) with
          cancels := d.cancels ++ [operation.requestId] }
        { target := some operation.requestId }
  | nothingCancelled : Moved streamId d .cancelOpening d {}
  | cancelReached (i : Nat) (target requestId key : String) (request : ClientRequest)
      (made : request = ⟨PROTOCOL_VERSION,requestId,.cancelRequest target,some key⟩) :
      Moved streamId d (.cancelReaches i requestId key)
        { d.follow (d.daemon.dispatch streamId request).1
            (d.daemon.dispatch streamId request).2.events with
          cancels := d.cancels.eraseIdx i }
        { target := some target, answer := (d.daemon.dispatch streamId request).2.response }
  | goalSet (goal : String) :
      Moved streamId d (.setTaskGoal goal) (d.dispatch (.setTaskGoal goal)) {}
  | errorCleared : Moved streamId d .clearError (d.dispatch .clearError) {}

theorem step_moved [StateRepository σ] {streamId : String} {d d' : Window σ} {m : Move} {e : Effect}
    (step : d.step streamId m = some (d', e)) : Moved streamId d m d' e := by
  cases m with
  | daemon a =>
    simp only [Window.step] at step
    cases steps : d.daemon.step streamId a with
    | none => simp [steps] at step
    | some p =>
      simp only [steps] at step
      obtain ⟨rfl, rfl⟩ := Prod.mk.inj (Option.some.inj step)
      exact .daemon a p.1 p.2 steps
  | subscribe operations =>
    simp only [Window.step] at step
    split at step
    · rename_i snapshot channel subscribes
      split_ifs at step with listed
      obtain ⟨rfl, rfl⟩ := Prod.mk.inj (Option.some.inj step)
      exact .subscribed operations snapshot channel subscribes listed
    · cases step
  | disconnect kept =>
    obtain ⟨rfl, rfl⟩ := Prod.mk.inj (Option.some.inj step)
    exact .disconnected kept
  | deliver =>
    simp only [Window.step] at step
    cases pending : d.stream with
    | nil => simp [pending] at step
    | cons message rest =>
      simp only [pending] at step
      obtain ⟨rfl, rfl⟩ := Prod.mk.inj (Option.some.inj step)
      exact .delivered message rest pending
  | setConnection connection =>
    obtain ⟨rfl, rfl⟩ := Prod.mk.inj (Option.some.inj step)
    exact .connectionSet connection
  | choose answer now =>
    obtain ⟨rfl, rfl⟩ := Prod.mk.inj (Option.some.inj step)
    exact .chosen answer now
  | callReaches i requestId key =>
    simp only [Window.step] at step
    cases found : d.calls[i]? with
    | none => simp [found] at step
    | some call =>
      simp only [found] at step
      split_ifs at step with allowed
      obtain ⟨rfl, rfl⟩ := Prod.mk.inj (Option.some.inj step)
      exact .callReached i call requestId key found allowed.1 allowed.2
  | reply i =>
    simp only [Window.step] at step
    split at step
    · rename_i clientId path requestId response found
      obtain ⟨rfl, rfl⟩ := Prod.mk.inj (Option.some.inj step)
      exact .replied i clientId path requestId response found
    · cases step
  | lost i message =>
    simp only [Window.step] at step
    split at step
    · obtain ⟨rfl, rfl⟩ := Prod.mk.inj (Option.some.inj step)
      exact .lost i message
    · cases step
  | cancelOpening =>
    simp only [Window.step] at step
    cases shown : d.ui.openingOperation with
    | none =>
      simp only [shown] at step
      obtain ⟨rfl, rfl⟩ := Prod.mk.inj (Option.some.inj step)
      exact .nothingCancelled
    | some operation =>
      simp only [shown] at step
      obtain ⟨rfl, rfl⟩ := Prod.mk.inj (Option.some.inj step)
      exact .cancelled operation shown
  | cancelReaches i requestId key =>
    simp only [Window.step] at step
    split at step
    · rename_i target found
      obtain ⟨rfl, rfl⟩ := Prod.mk.inj (Option.some.inj step)
      exact .cancelReached i target requestId key _ rfl
    · cases step
  | setTaskGoal goal =>
    obtain ⟨rfl, rfl⟩ := Prod.mk.inj (Option.some.inj step)
    exact .goalSet goal
  | clearError =>
    obtain ⟨rfl, rfl⟩ := Prod.mk.inj (Option.some.inj step)
    exact .errorCleared

end Window

def window (σ : Type) [StateRepository σ] (streamId : String) : Machine (Window σ) Move Effect :=
  ⟨Window.step streamId⟩

end Kesharon.Workspace

import Kesharon.Host.StreamWorker
import Kesharon.Ipc.Wire

namespace Kesharon.Host

open Framework Ipc Protocol

/-- How a client reads what a daemon sends, and its timeout. -/
structure DaemonClient where
  responses : SerdeJson ServerResponse
  messages : SerdeJson StreamMessage
  ioTimeout : Nat

/-- The blocking call of a worker that is reading. -/
inductive StreamCall where
  | subscribing (blocked : Blocked (Except HostError DaemonSubscription))
  | reading (blocked : Blocked (Except HostError StreamMessage))

/-- A worker with the connection of its latest subscription. `started` is where the connection
stood when the latest call began. -/
structure HostStream where
  worker : StreamWorker
  call : Option StreamCall
  wire : Wire
  started : Nat

inductive StreamAction where
  | worker (action : WorkerAction)
  | connect
  | startRead
  | turn (read : WireRead) (late : Nat)
  | write (payload : List UInt8)
  | arrive (count : Nat)
  | close (count : Nat)
  deriving DecidableEq

/-- What the worker does in a step, and what a call returns to it. -/
structure StreamOutput where
  worker : WorkerOutput := {}
  returned : Option WorkerAction := none

namespace HostStream

def new : HostStream := ⟨.new,none,.new,0⟩

/-- The result of a call, as the worker's step. -/
def returns (s : HostStream) (wire : Wire) (action : WorkerAction) :
    Option (HostStream × StreamOutput) :=
  (s.worker.step action).map fun r =>
    ({ s with worker := r.1, call := none, wire := wire }, ⟨r.2,some action⟩)

/-- A worker's own step; what a call returns is not one, but a connection may be refused. -/
def workerStep (s : HostStream) (action : WorkerAction) : Option (HostStream × StreamOutput) :=
  let own := (s.worker.step action).map fun r => ({ s with worker := r.1 }, ⟨r.2,none⟩)
  match action with
  | .readReturns _ | .subscribeReturns (.ok _) => none
  | .subscribeReturns (.error _) => if s.call.isNone then own else none
  | _ => own

/-- The call goes on with what its read meets on the wire. -/
def turn (s : HostStream) (read : WireRead) (late : Nat) : Option (HostStream × StreamOutput) :=
  match s.call with
  | none => none
  | some (.subscribing b) =>
    match s.wire.read b.call.need read with
    | none => none
    | some (result, wire) =>
      match b.turn ⟨result,late⟩ with
      | .inl b => some ({ s with call := some (.subscribing b), wire := wire }, {})
      | .inr result => s.returns wire (.subscribeReturns result)
  | some (.reading b) =>
    match s.wire.read b.call.need read with
    | none => none
    | some (result, wire) =>
      match b.turn ⟨result,late⟩ with
      | .inl b => some ({ s with call := some (.reading b), wire := wire }, {})
      | .inr result => s.returns wire (.readReturns result)

def step (client : DaemonClient) (s : HostStream) :
    StreamAction → Option (HostStream × StreamOutput)
  | .worker action => s.workerStep action
  | .connect =>
    match s.worker.location, s.call with
    | .subscribing, none =>
      match (subscribeReads client.responses client.messages client.ioTimeout).start with
      | .inl b => some ({ s with call := some (.subscribing b), wire := .new, started := 0 }, {})
      | .inr _ => none
    | _, _ => none
  | .startRead =>
    match s.worker.location, s.call with
    | .reading, none =>
      match (readNextMessage client.messages READ_TIMEOUT).start with
      | .inl b => some ({ s with call := some (.reading b), started := s.wire.position }, {})
      | .inr _ => none
    | _, _ => none
  | .turn read late => s.turn read late
  | .write payload =>
    if s.wire.closed = none ∧ payload.length ≤ MAX_FRAME_BYTES then
      some ({ s with wire := s.wire.write payload }, {})
    else none
  | .arrive count => some ({ s with wire := s.wire.arrive count }, {})
  | .close count =>
    if s.wire.closed = none then some ({ s with wire := s.wire.close count }, {}) else none

/-- The steps of a worker and its connection. -/
inductive Moves (client : DaemonClient) (s : HostStream) :
    StreamAction → HostStream → StreamOutput → Prop where
  | worker {a : WorkerAction} {w : StreamWorker} {o : WorkerOutput}
      (reads : ∀ r, a ≠ .readReturns r) (subscribes : ∀ r, a ≠ .subscribeReturns (.ok r))
      (refused : ∀ e, a = .subscribeReturns (.error e) → s.call = none)
      (step : s.worker.step a = some (w, o)) :
      Moves client s (.worker a) { s with worker := w } ⟨o,none⟩
  | connected {b : Blocked (Except HostError DaemonSubscription)}
      (here : s.worker.location = .subscribing) (free : s.call = none)
      (start : (subscribeReads client.responses client.messages client.ioTimeout).start =
        .inl b) :
      Moves client s .connect
        { s with call := some (.subscribing b), wire := .new, started := 0 } {}
  | began {b : Blocked (Except HostError StreamMessage)}
      (here : s.worker.location = .reading) (free : s.call = none)
      (start : (readNextMessage client.messages READ_TIMEOUT).start = .inl b) :
      Moves client s .startRead
        { s with call := some (.reading b), started := s.wire.position } {}
  | subscribing {b b' : Blocked (Except HostError DaemonSubscription)} {read : WireRead}
      {late : Nat} {result : ReadResult} {wire : Wire} (call : s.call = some (.subscribing b))
      (met : s.wire.read b.call.need read = some (result, wire))
      (waits : b.turn ⟨result,late⟩ = .inl b') :
      Moves client s (.turn read late)
        { s with call := some (.subscribing b'), wire := wire } {}
  | subscribed {b : Blocked (Except HostError DaemonSubscription)} {read : WireRead}
      {late : Nat} {result : ReadResult} {wire : Wire} {r : Except HostError DaemonSubscription}
      {w : StreamWorker} {o : WorkerOutput} (call : s.call = some (.subscribing b))
      (met : s.wire.read b.call.need read = some (result, wire))
      (done : b.turn ⟨result,late⟩ = .inr r)
      (step : s.worker.step (.subscribeReturns r) = some (w, o)) :
      Moves client s (.turn read late) { s with worker := w, call := none, wire := wire }
        ⟨o,some (.subscribeReturns r)⟩
  | reading {b b' : Blocked (Except HostError StreamMessage)} {read : WireRead}
      {late : Nat} {result : ReadResult} {wire : Wire} (call : s.call = some (.reading b))
      (met : s.wire.read b.call.need read = some (result, wire))
      (waits : b.turn ⟨result,late⟩ = .inl b') :
      Moves client s (.turn read late) { s with call := some (.reading b'), wire := wire } {}
  | read {b : Blocked (Except HostError StreamMessage)} {read : WireRead}
      {late : Nat} {result : ReadResult} {wire : Wire} {r : Except HostError StreamMessage}
      {w : StreamWorker} {o : WorkerOutput} (call : s.call = some (.reading b))
      (met : s.wire.read b.call.need read = some (result, wire))
      (done : b.turn ⟨result,late⟩ = .inr r)
      (step : s.worker.step (.readReturns r) = some (w, o)) :
      Moves client s (.turn read late) { s with worker := w, call := none, wire := wire }
        ⟨o,some (.readReturns r)⟩
  | wrote {payload : List UInt8} (opened : s.wire.closed = none)
      (fits : payload.length ≤ MAX_FRAME_BYTES) :
      Moves client s (.write payload) { s with wire := s.wire.write payload } {}
  | arrived (count : Nat) : Moves client s (.arrive count) { s with wire := s.wire.arrive count } {}
  | closed (count : Nat) (opened : s.wire.closed = none) :
      Moves client s (.close count) { s with wire := s.wire.close count } {}

theorem turn_moves {client : DaemonClient} {s s' : HostStream} {read : WireRead} {late : Nat}
    {o : StreamOutput} (h : s.turn read late = some (s', o)) :
    Moves client s (.turn read late) s' o := by
  unfold turn at h
  cases call : s.call with
  | none => simp [call] at h
  | some c =>
    cases c with
    | subscribing b =>
      cases met : s.wire.read b.call.need read with
      | none => simp [call, met] at h
      | some p =>
        obtain ⟨result, wire⟩ := p
        cases step : b.turn ⟨result,late⟩ with
        | inl b' =>
          simp only [call, met, step, Option.some.injEq, Prod.mk.injEq] at h
          obtain ⟨rfl, rfl⟩ := h
          exact .subscribing call met step
        | inr r =>
          simp only [call, met, step, returns, Option.map_eq_some_iff, Prod.exists,
            Prod.mk.injEq] at h
          obtain ⟨w, o', hw, rfl, rfl⟩ := h
          exact .subscribed call met step hw
    | reading b =>
      cases met : s.wire.read b.call.need read with
      | none => simp [call, met] at h
      | some p =>
        obtain ⟨result, wire⟩ := p
        cases step : b.turn ⟨result,late⟩ with
        | inl b' =>
          simp only [call, met, step, Option.some.injEq, Prod.mk.injEq] at h
          obtain ⟨rfl, rfl⟩ := h
          exact .reading call met step
        | inr r =>
          simp only [call, met, step, returns, Option.map_eq_some_iff, Prod.exists,
            Prod.mk.injEq] at h
          obtain ⟨w, o', hw, rfl, rfl⟩ := h
          exact .read call met step hw

theorem workerStep_moves {client : DaemonClient} {s s' : HostStream} {a : WorkerAction}
    {o : StreamOutput} (h : s.workerStep a = some (s', o)) :
    Moves client s (.worker a) s' o := by
  have own (h : ((s.worker.step a).map fun r => ({ s with worker := r.1 }, (⟨r.2,none⟩ :
      StreamOutput))) = some (s', o)) : ∃ w o', s.worker.step a = some (w, o') ∧
      s' = { s with worker := w } ∧ o = ⟨o',none⟩ := by
    simp only [Option.map_eq_some_iff, Prod.exists, Prod.mk.injEq] at h
    obtain ⟨w, o', hw, rfl, rfl⟩ := h
    exact ⟨w, o', hw, rfl, rfl⟩
  cases a with
  | readReturns r => simp [workerStep] at h
  | subscribeReturns r =>
    cases r with
    | ok subscription => simp [workerStep] at h
    | error e =>
      simp only [workerStep] at h
      split_ifs at h with free
      obtain ⟨w, o', hw, rfl, rfl⟩ := own h
      exact .worker (by simp) (by simp) (fun _ _ => by simpa using free) hw
  | _ =>
    obtain ⟨w, o', hw, rfl, rfl⟩ := own h
    exact .worker (by simp) (by simp) (by simp) hw

theorem step_moves {client : DaemonClient} {s s' : HostStream} {a : StreamAction}
    {o : StreamOutput} (h : s.step client a = some (s', o)) : Moves client s a s' o := by
  cases a with
  | worker a => exact workerStep_moves h
  | turn read late => exact turn_moves h
  | arrive count =>
    obtain ⟨rfl, rfl⟩ := Prod.mk.inj (Option.some.inj h)
    exact .arrived count
  | write payload =>
    simp only [step] at h
    split_ifs at h with ready
    obtain ⟨rfl, rfl⟩ := Prod.mk.inj (Option.some.inj h)
    exact .wrote ready.1 ready.2
  | close count =>
    simp only [step] at h
    split_ifs at h with opened
    obtain ⟨rfl, rfl⟩ := Prod.mk.inj (Option.some.inj h)
    exact .closed count opened
  | connect =>
    unfold step at h
    cases here : s.worker.location with
    | subscribing =>
      cases free : s.call with
      | some c => simp [here, free] at h
      | none =>
        simp only [here, free] at h
        cases start : (subscribeReads client.responses client.messages client.ioTimeout).start with
        | inl b =>
          simp only [start, Option.some.injEq, Prod.mk.injEq] at h
          obtain ⟨rfl, rfl⟩ := h
          exact .connected here free start
        | inr result => simp [start] at h
    | _ => simp [here] at h
  | startRead =>
    unfold step at h
    cases here : s.worker.location with
    | reading =>
      cases free : s.call with
      | some c => simp [here, free] at h
      | none =>
        simp only [here, free] at h
        cases start : (readNextMessage client.messages READ_TIMEOUT).start with
        | inl b =>
          simp only [start, Option.some.injEq, Prod.mk.injEq] at h
          obtain ⟨rfl, rfl⟩ := h
          exact .began here free start
        | inr result => simp [start] at h
    | _ => simp [here] at h

/-- With a call in progress, the worker's own step does not move it. -/
theorem worker_busy {s : HostStream} {a : WorkerAction} {w : StreamWorker} {o : WorkerOutput}
    (reads : ∀ r, a ≠ .readReturns r) (subscribes : ∀ r, a ≠ .subscribeReturns (.ok r))
    (refused : ∀ e, a = .subscribeReturns (.error e) → s.call = none)
    (step : s.worker.step a = some (w, o)) {call : StreamCall} (busy : s.call = some call)
    (here : s.worker.location = .reading ∨ s.worker.location = .subscribing) :
    w.location = s.worker.location := by
  apply StreamWorker.step_busy step here reads
  intro r returned
  cases r with
  | ok subscription => exact subscribes _ returned
  | error e => simp [refused e returned] at busy

theorem step_valid {client : DaemonClient} {s s' : HostStream} {a : StreamAction}
    {o : StreamOutput} (valid : s.wire.Valid) (h : s.step client a = some (s', o)) :
    s'.wire.Valid := by
  cases step_moves h with
  | worker | began => exact valid
  | connected => exact Wire.new_valid
  | subscribing _ met | subscribed _ met | reading _ met | read _ met => exact valid.read met
  | wrote opened fits => exact valid.write opened fits
  | arrived count => exact valid.arrive count
  | closed count => exact valid.close count

/-- Only a close closes the wire; a new connection is open. -/
theorem step_closed {client : DaemonClient} {s s' : HostStream} {a : StreamAction}
    {o : StreamOutput} (h : s.step client a = some (s', o)) (other : ∀ count, a ≠ .close count)
    (closed : s'.wire.closed ≠ none) : s.wire.closed ≠ none := by
  cases step_moves h with
  | worker | began | wrote | arrived => exact closed
  | connected => exact absurd rfl closed
  | subscribing _ met | subscribed _ met | reading _ met | read _ met =>
    rw [← Wire.read_closed met]
    exact closed
  | closed count => exact absurd rfl (other count)

end HostStream

def hostStream (client : DaemonClient) : Machine HostStream StreamAction StreamOutput :=
  ⟨HostStream.step client⟩

end Kesharon.Host

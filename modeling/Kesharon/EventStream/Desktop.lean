import Kesharon.Host.StreamWorker
import Kesharon.Daemon.Delivery

namespace Kesharon.EventStream

open Framework Application Daemon Host Protocol

/-- What the daemon has made of a subscribe request: the thread of its connection has not reached
the session yet, has given up, or has subscribed. -/
inductive Handling where
  | pending
  | refused
  | subscribed (snapshot : WorkspaceSnapshot) (channel : ChannelId)
  deriving DecidableEq

def Handling.of (output : Output) : Handling :=
  match output.subscribed with
  | some (.ok (snapshot, channel)) => .subscribed snapshot channel
  | _ => .refused

/-- A subscribe request that has left the host, with the worker it is from. -/
structure SubscribeRequest where
  worker : Nat
  handling : Handling
  deriving DecidableEq

/-- A worker, with the request it waits on or whose subscription it reads. -/
structure Subscriber where
  worker : StreamWorker
  request : Option Nat

/-- A session of the daemon, and the workers that `execute_subscribe_daemon_events` has started,
oldest first. The cancel flag in the registry is that of a worker. -/
structure Desktop (σ : Type) where
  session : World σ
  workers : List Subscriber
  activeSubscriptionCancel : Option Nat
  requests : List SubscribeRequest

inductive DesktopAction where
  | executeSubscribe
  | worker (index : Nat) (action : WorkerAction)
  | connect (index : Nat)
  | handle (request : Nat)
  | abandon (request : Nat)
  | session (action : Action)

structure DesktopOutput where
  session : Output := {}
  worker : WorkerOutput := {}

/-- The worker waits on a subscribe call, or has its result and reads. -/
def subscribes : Location → Bool
  | .subscribing | .subscribed (.ok _) | .announcing _ | .loopCheck | .readCheck | .reading
  | .received _ | .forwarding _ | .recheckingClient | .checkingHealth => true
  | _ => false

namespace Subscriber

def new : Subscriber := ⟨.new,none⟩

def cancel (p : Subscriber) : Subscriber := { p with worker := { p.worker with cancelled := true } }

def moved (p : Subscriber) (worker : StreamWorker) : Subscriber :=
  ⟨worker,if subscribes worker.location then p.request else none⟩

end Subscriber

namespace Desktop

variable {σ : Type}

def new (session : World σ) : Desktop σ := ⟨session,[],none,[]⟩

/-- `execute_subscribe_daemon_events`: cancel the worker in the registry, and start another. -/
def executeSubscribe (s : Desktop σ) : Desktop σ :=
  { s with
    workers := (match s.activeSubscriptionCancel with
      | some previous => s.workers.modify previous Subscriber.cancel
      | none => s.workers) ++ [.new]
    activeSubscriptionCancel := some s.workers.length }

/-- Only `execute_subscribe_daemon_events` cancels a worker, and a subscription is returned from
what the daemon has answered. -/
def permits (s : Desktop σ) (streamId : String) (p : Subscriber) : WorkerAction → Bool
  | .cancel => false
  | .subscribeReturns (.ok subscription) =>
    match p.request.bind (s.requests[·]?) with
    | some ⟨_,.subscribed snapshot _⟩ => subscription = ⟨streamId,snapshot⟩
    | _ => false
  | _ => true

def workerStep (s : Desktop σ) (streamId : String) (index : Nat) (action : WorkerAction) :
    Option (Desktop σ × DesktopOutput) :=
  match s.workers[index]? with
  | none => none
  | some p =>
    if s.permits streamId p action then
      (p.worker.step action).map fun r =>
        ({ s with workers := s.workers.set index (p.moved r.1) }, { worker := r.2 })
    else none

/-- `DaemonClient::subscribe` writes its request on a connection of its own. -/
def connect (s : Desktop σ) (index : Nat) : Option (Desktop σ × DesktopOutput) :=
  match s.workers[index]? with
  | none => none
  | some p =>
    if p.worker.location = .subscribing ∧ p.request = none then
      some ({ s with
        workers := s.workers.set index { p with request := some s.requests.length }
        requests := s.requests ++ [⟨index,.pending⟩] }, {})
    else none

def settle (s : Desktop σ) (request : Nat) (r : SubscribeRequest) (handling : Handling) :
    Desktop σ :=
  { s with requests := s.requests.set request { r with handling := handling } }

/-- The thread of a connection calls `DaemonSession::subscribe`. -/
def handle (s : Desktop σ) (streamId : String) (request : Nat) :
    Option (Desktop σ × DesktopOutput) :=
  match s.requests[request]? with
  | some ⟨worker,.pending⟩ =>
    let r := s.session.subscribe streamId
    some ({ s with session := r.1 }.settle request ⟨worker,.pending⟩ (Handling.of r.2),
      { session := r.2 })
  | _ => none

def step [StateRepository σ] (streamId : String) (s : Desktop σ) :
    DesktopAction → Option (Desktop σ × DesktopOutput)
  | .executeSubscribe => some (s.executeSubscribe, {})
  | .worker index action => s.workerStep streamId index action
  | .connect index => s.connect index
  | .handle request => s.handle streamId request
  | .abandon request =>
    match s.requests[request]? with
    | some ⟨worker,.pending⟩ => some (s.settle request ⟨worker,.pending⟩ .refused, {})
    | _ => none
  | .session .subscribe => none
  | .session action =>
    (s.session.step streamId action).map fun r => ({ s with session := r.1 }, { session := r.2 })

end Desktop

def desktop (σ : Type) [StateRepository σ] (streamId : String) :
    Machine (Desktop σ) DesktopAction DesktopOutput :=
  ⟨Desktop.step streamId⟩

end Kesharon.EventStream

import Kesharon.Daemon.Subscriber
import Kesharon.Server.Runtime
import Kesharon.Server.Subscription

namespace Kesharon.Server

open Framework Application Kesharon.Daemon Ipc Protocol

/-- `AtomicUsize::fetch_sub(1)`, which wraps around. -/
def fetchSub (active : Nat) : Nat := (active + (2^64 - 1)) % 2^64

/-- What the thread of `ServerRuntime::run` is about to do: in `ConnectionPermit::acquire`, load the
counter or exchange the value that it has seen; with a permit, spawn a thread, or drop the permit
because none could be spawned. -/
inductive Accepting where
  | listening
  | loading
  | exchanging (active : Nat)
  | spawning
  | dropping
  | rejecting
  | ended
  deriving DecidableEq, Repr

/-- The permits of the accept loop. -/
def Accepting.permits : Accepting → Nat
  | .spawning | .dropping => 1
  | _ => 0

/-- The connections whose fate is open. -/
def Accepting.pending : Accepting → Nat
  | .loading | .exchanging _ | .spawning => 1
  | _ => 0

/-- A thread `kesharon-connection`, and whether it still has its permit. -/
structure Worker where
  permit : Bool
  serving : Serving
  wire : Wire
  deriving DecidableEq, Repr

/-- The thread has returned from `serve_local_stream`, and its receiver is dropped. -/
def Serving.returned : Serving → Bool
  | .closing _ | .closed => true
  | _ => false

def Serving.running : Serving → Bool
  | .accepted | .writing _ _ _ | .receiving _ => true
  | _ => false

/-- The frames behind the one that is being written. -/
def Serving.behind : Serving → Nat
  | .writing _ rest _ => rest.length
  | _ => 0

/-- A `ServerRuntime` and its threads. -/
structure Pool (σ : Type) where
  session : World σ
  activeConnections : Nat
  accepting : Accepting
  workers : List Worker

/-- What becomes of an accepted connection. -/
inductive Fate where
  | served (worker : Nat)
  | busy
  | unspawned
  deriving DecidableEq, Repr

def Fate.isServed : Fate → Bool
  | .served _ => true
  | _ => false

inductive PoolAction where
  | accept
  | acceptFails (error : IoError)
  | load
  | exchange (spurious : Bool)
  | spawn (spawned : Bool)
  | dropUnspawned
  | rejected
  | acceptPanics
  | respond (worker : Nat) (response : ServerResponse)
  | serve (worker : Nat) (action : ServeAction)
  | panic (worker : Nat) (written : Nat)
  | dropPermit (worker : Nat)
  | session (action : Action)

structure PoolOutput where
  fate : Option Fate := none
  session : Output := {}

/-- Requests other than a subscription have their response written. -/
def Connection.respond {σ : Type} (responses : SerdeJson ServerResponse) (response : ServerResponse)
    (c : Connection σ) : Connection σ :=
  match Frame.encode responses response with
  | .ok frame => c.write [frame] none
  | .error _ => c.ret none

/-- The permit is dropped before the stream, and `reject_busy_connection` is the accept loop's. -/
def Worker.allows (w : Worker) : ServeAction → Bool
  | .rejectBusy _ => false
  | .dropStream => !w.permit
  | _ => true

/-- Subscriptions are the workers'. -/
def sharesSession : Action → Bool
  | .subscribe | .recv _ | .hangUp _ => false
  | _ => true

namespace Pool

variable {σ : Type}

def new (session : World σ) : Pool σ := ⟨session,0,.listening,[]⟩

/-- The permits that have been acquired and not been dropped. -/
def livePermits (s : Pool σ) : Nat :=
  s.workers.countP (fun w => w.permit) + s.accepting.permits

/-- `fetch_update` has seen the counter. -/
def update (s : Pool σ) : Pool σ × PoolOutput :=
  if s.activeConnections < MAX_ACTIVE_CONNECTIONS then
    ({ s with accepting := .exchanging s.activeConnections }, {})
  else ({ s with accepting := .rejecting }, { fate := some .busy })

def connection (s : Pool σ) (w : Worker) : Connection σ := ⟨s.session,w.serving,w.wire⟩

/-- A worker's thread has stepped. -/
def served (s : Pool σ) (j : Nat) (w : Worker) (c : Connection σ) : Pool σ :=
  { s with
    session := c.session
    workers := s.workers.set j { w with serving := c.serving, wire := c.wire } }

def step [StateRepository σ] (responses : SerdeJson ServerResponse)
    (messages : SerdeJson StreamMessage) (streamId : String) (s : Pool σ) :
    PoolAction → Option (Pool σ × PoolOutput)
  | .accept =>
    if s.accepting = .listening then some ({ s with accepting := .loading }, {}) else none
  | .acceptFails error =>
    if s.accepting = .listening then
      some (if error.kind = .timedOut then s else { s with accepting := .ended }, {})
    else none
  | .load => if s.accepting = .loading then some s.update else none
  | .exchange spurious =>
    match s.accepting with
    | .exchanging active =>
      if s.activeConnections = active ∧ spurious = false then
        some ({ s with activeConnections := active + 1, accepting := .spawning }, {})
      else some s.update
    | _ => none
  | .spawn spawned =>
    if s.accepting = .spawning then
      if spawned then
        some ({ s with accepting := .listening, workers := s.workers ++ [⟨true,.accepted,.new⟩] },
          { fate := some (.served s.workers.length) })
      else some ({ s with accepting := .dropping }, { fate := some .unspawned })
    else none
  | .dropUnspawned =>
    if s.accepting = .dropping then
      some ({ s with
        activeConnections := fetchSub s.activeConnections
        accepting := .listening }, {})
    else none
  | .rejected =>
    if s.accepting = .rejecting then some ({ s with accepting := .listening }, {}) else none
  | .acceptPanics =>
    if s.accepting = .rejecting ∨ s.accepting = .listening then
      some ({ s with accepting := .ended }, {})
    else none
  | .respond j response =>
    match s.workers[j]? with
    | some w =>
      if w.serving = .accepted then
        some (s.served j w ((s.connection w).respond responses response), {})
      else none
    | none => none
  | .serve j action =>
    match s.workers[j]? with
    | some w =>
      if w.allows action then
        ((s.connection w).step responses messages streamId action).map fun r =>
          (s.served j w r.1, { session := r.2 })
      else none
    | none => none
  | .panic j written =>
    match s.workers[j]? with
    | some w =>
      if w.serving.running then
        let unwinding : Worker := { w with serving := .returning w.serving.channel written }
        some ({ s with workers := s.workers.set j unwinding }, {})
      else none
    | none => none
  | .dropPermit j =>
    match s.workers[j]? with
    | some w =>
      if w.permit ∧ w.serving.returned then
        some ({ s with
          activeConnections := fetchSub s.activeConnections
          workers := s.workers.set j { w with permit := false } }, {})
      else none
    | none => none
  | .session action =>
    if sharesSession action then
      (s.session.step streamId action).map fun r => ({ s with session := r.1 }, { session := r.2 })
    else none

end Pool

def pool (σ : Type) [StateRepository σ] (responses : SerdeJson ServerResponse)
    (messages : SerdeJson StreamMessage) (streamId : String) :
    Machine (Pool σ) PoolAction PoolOutput :=
  ⟨Pool.step responses messages streamId⟩

namespace Connection

variable {σ : Type} {c c' : Connection σ}

/-- The frames that are begun, and those that follow them without another receive. -/
def framed (c : Connection σ) : Nat := c.wire.frames.length + c.serving.behind

/-- What a thread does to the session: nothing, or one of its subscription's three steps. Once it
has begun to serve, only a message lets it begin one more frame. -/
inductive Thread (streamId : String) (c c' : Connection σ) (o : Output) : Prop where
  | still (session : c'.session = c.session) (channel : c'.serving.channel = c.serving.channel)
      (silent : o.events = [] ∧ o.received = none)
      (frames : c.serving = .accepted ∨ c'.framed ≤ c.framed)
  | subscribed (accepted : c.serving = .accepted) (lock : c.session.statePoisoned = false)
      (session : c'.session = (c.session.subscribe streamId).1)
      (channel : c'.serving.channel = some c.session.channelCount)
      (output : o = (c.session.subscribe streamId).2)
  | received (ch : ChannelId) (r : Received StreamMessage) (buffer : SyncChannel StreamMessage)
      (waiting : c.serving = .receiving ch) (recv : (c.session.channels ch).recv = some (r, buffer))
      (session : c'.session =
        { c.session with channels := Function.update c.session.channels ch buffer })
      (channel : c'.serving.channel = some ch) (output : o = { received := some (ch, r) })
      (frames : c'.framed ≤ c.framed + (obtained ch [(.recv ch, o)]).length)
  | hungUp (ch : ChannelId) (held : c.serving.channel = some ch)
      (session : c'.session = { c.session with
        channels := Function.update c.session.channels ch (c.session.channels ch).dropReceiver })
      (channel : c'.serving.channel = none) (output : o = {}) (frames : c'.framed ≤ c.framed)

theorem write_channel (c : Connection σ) (frames : List Frame) (channel : Option ChannelId) :
    (c.write frames channel).serving.channel = channel := by
  unfold write
  cases frames with
  | cons frame rest => rfl
  | nil => cases channel <;> rfl

theorem write_session (c : Connection σ) (frames : List Frame) (channel : Option ChannelId) :
    (c.write frames channel).session = c.session := by
  unfold write
  cases frames with
  | cons frame rest => rfl
  | nil => cases channel <;> rfl

theorem write_framed (c : Connection σ) (frames : List Frame) (channel : Option ChannelId) :
    (c.write frames channel).framed = c.wire.frames.length + frames.length := by
  unfold write framed
  cases frames with
  | cons frame rest =>
    dsimp only [Wire.write, Serving.behind]
    rw [List.length_append, List.length_singleton, List.length_cons]
    omega
  | nil => cases channel <;> rfl

theorem write_left (c : Connection σ) (frames : List Frame) (channel : Option ChannelId) :
    (c.write frames channel).serving ≠ .accepted := by
  unfold write
  cases frames with
  | cons frame rest => simp
  | nil => cases channel <;> simp [ret]

theorem respond_thread {streamId : String} {responses : SerdeJson ServerResponse}
    (response : ServerResponse) (here : c.serving = .accepted) :
    Thread streamId c (c.respond responses response) {} := by
  unfold respond
  cases Frame.encode responses response with
  | ok frame =>
    refine .still (write_session ..) ?_ ⟨rfl, rfl⟩ (.inl here)
    rw [write_channel, here]
    rfl
  | error e =>
    refine .still rfl ?_ ⟨rfl, rfl⟩ (.inl here)
    rw [here]
    rfl

theorem respond_left (responses : SerdeJson ServerResponse) (response : ServerResponse)
    (c : Connection σ) : (c.respond responses response).serving ≠ .accepted := by
  unfold respond
  split
  · exact write_left _ _ _
  · simp [ret]

theorem subscribe_thread {streamId requestId : String} {responses : SerdeJson ServerResponse}
    {messages : SerdeJson StreamMessage} (here : c.serving = .accepted) :
    Thread streamId c (c.subscribe responses messages streamId requestId).1
      (c.subscribe responses messages streamId requestId).2 := by
  unfold subscribe
  cases lock : c.session.statePoisoned with
  | true =>
    rw [World.subscribe_poisoned streamId lock]
    refine .still rfl ?_ ⟨rfl, rfl⟩ (.inl here)
    rw [here]
    rfl
  | false =>
    have result := World.subscribe_result streamId lock
    rcases subscribed : c.session.subscribe streamId with ⟨session, output⟩
    have same : session = (c.session.subscribe streamId).1 := by rw [subscribed]
    have same' : output = (c.session.subscribe streamId).2 := by rw [subscribed]
    rw [subscribed] at result
    dsimp only at result ⊢
    subst result
    dsimp only
    split
    · refine .subscribed here lock ?_ (write_channel ..) same'
      rw [write_session]
      exact same
    · exact .subscribed here lock same rfl same'

theorem deliver_session (messages : SerdeJson StreamMessage) (ch : ChannelId) (c : Connection σ)
    (r : Received StreamMessage) : (c.deliver messages ch r).session = c.session := by
  unfold deliver
  split
  · split
    · exact write_session ..
    · rfl
  · rfl

theorem deliver_channel (messages : SerdeJson StreamMessage) (ch : ChannelId) (c : Connection σ)
    (r : Received StreamMessage) : (c.deliver messages ch r).serving.channel = some ch := by
  unfold deliver
  split
  · split
    · exact write_channel ..
    · rfl
  · rfl

theorem deliver_framed (messages : SerdeJson StreamMessage) (ch : ChannelId) (c : Connection σ)
    (r : Received StreamMessage) :
    (c.deliver messages ch r).framed ≤
      c.framed + (obtained ch [(.recv ch, { received := some (ch, r) })]).length := by
  have begun : c.wire.frames.length ≤ c.framed := Nat.le_add_right _ _
  cases r with
  | disconnected =>
    change c.wire.frames.length ≤ _
    omega
  | message m =>
    have one : (obtained ch [(.recv ch, { received := some (ch, .message m) })]).length = 1 := by
      simp [obtained]
    rw [one]
    unfold deliver
    dsimp only
    split
    · rw [write_framed, List.length_singleton]
      omega
    · change c.wire.frames.length ≤ _
      omega

theorem deliver_left (messages : SerdeJson StreamMessage) (ch : ChannelId) (c : Connection σ)
    (r : Received StreamMessage) : (c.deliver messages ch r).serving ≠ .accepted := by
  unfold deliver
  split
  · split
    · exact write_left _ _ _
    · simp [ret]
  · simp [ret]

theorem step_thread [StateRepository σ] {responses : SerdeJson ServerResponse}
    {messages : SerdeJson StreamMessage} {streamId : String} {a : ServeAction} {o : Output}
    (h : c.step responses messages streamId a = some (c', o)) : Thread streamId c c' o := by
  unfold step at h
  cases a with
  | subscribe requestId =>
    dsimp only at h
    split at h
    · rename_i here
      have thread := @subscribe_thread σ c streamId requestId responses messages here
      rw [Option.some.inj h] at thread
      exact thread
    · cases h
  | rejectBusy requestId =>
    dsimp only at h
    split at h
    · rename_i here
      obtain ⟨rfl, rfl⟩ := Prod.mk.inj (Option.some.inj h)
      exact respond_thread _ here
    · cases h
  | giveUp =>
    dsimp only at h
    split at h
    · rename_i here
      obtain ⟨rfl, rfl⟩ := Prod.mk.inj (Option.some.inj h)
      refine .still rfl ?_ ⟨rfl, rfl⟩ (.inl here)
      rw [here]
      rfl
    · cases h
  | wrote =>
    dsimp only at h
    split at h
    · rename_i frame rest channel here
      obtain ⟨rfl, rfl⟩ := Prod.mk.inj (Option.some.inj h)
      refine .still (write_session ..) ?_ ⟨rfl, rfl⟩ (.inr ?_)
      · rw [write_channel, here]
        rfl
      · rw [write_framed, framed, here]
        exact Nat.le_refl _
    · cases h
  | writeFails unsent =>
    dsimp only at h
    split at h
    · rename_i frame rest channel here
      obtain ⟨rfl, rfl⟩ := Prod.mk.inj (Option.some.inj h)
      refine .still rfl ?_ ⟨rfl, rfl⟩ (.inr (Nat.le_add_right _ _))
      rw [here]
      rfl
    · cases h
  | recv =>
    dsimp only at h
    split at h
    · rename_i ch here
      split at h
      · rename_i session output stepped
        simp only [Option.map_eq_some_iff, Prod.mk.injEq] at h
        obtain ⟨⟨ch', r⟩, got, rfl, rfl⟩ := h
        cases World.step_stepped stepped with
        | moved _ _ _ _ _ moves => cases moves
        | received _ r' buffer known alive recv =>
          obtain ⟨rfl, rfl⟩ := Prod.mk.inj (Option.some.inj got)
          refine .received ch r' buffer here recv ?_ (deliver_channel ..) rfl ?_
          · rw [deliver_session]
          · exact deliver_framed ..
      · cases h
    · cases h
  | dropReceiver =>
    dsimp only at h
    split at h
    · rename_i ch written here
      obtain ⟨⟨session, output⟩, stepped, same⟩ := Option.map_eq_some_iff.mp h
      obtain ⟨rfl, rfl⟩ := Prod.mk.inj same
      cases World.step_stepped stepped with
      | moved _ _ _ _ _ moves => cases moves
      | hungUp _ known =>
        refine .hungUp ch ?_ rfl rfl rfl (Nat.le_add_right _ _)
        rw [here]
        rfl
    · rename_i written here
      obtain ⟨rfl, rfl⟩ := Prod.mk.inj (Option.some.inj h)
      refine .still rfl ?_ ⟨rfl, rfl⟩ (.inr (Nat.le_add_right _ _))
      rw [here]
      rfl
    · cases h
  | dropStream =>
    dsimp only at h
    split at h
    · rename_i written here
      obtain ⟨rfl, rfl⟩ := Prod.mk.inj (Option.some.inj h)
      refine .still rfl ?_ ⟨rfl, rfl⟩ (.inr (Nat.le_add_right _ _))
      rw [here]
      rfl
    · cases h

theorem subscribe_left (responses : SerdeJson ServerResponse) (messages : SerdeJson StreamMessage)
    (streamId requestId : String) (c : Connection σ) :
    (c.subscribe responses messages streamId requestId).1.serving ≠ .accepted := by
  unfold subscribe
  dsimp only
  split
  · split
    · exact write_left _ _ _
    · simp [ret]
  · simp [ret]

/-- A thread that has stepped has begun to serve. -/
theorem step_left [StateRepository σ] {responses : SerdeJson ServerResponse}
    {messages : SerdeJson StreamMessage} {streamId : String} {a : ServeAction} {o : Output}
    (h : c.step responses messages streamId a = some (c', o)) : c'.serving ≠ .accepted := by
  unfold step at h
  cases a with
  | subscribe requestId =>
    dsimp only at h
    split at h
    · have left := subscribe_left responses messages streamId requestId c
      rw [Option.some.inj h] at left
      exact left
    · cases h
  | rejectBusy requestId =>
    dsimp only at h
    split at h
    · obtain ⟨rfl, _⟩ := Prod.mk.inj (Option.some.inj h)
      exact respond_left _ _ _
    · cases h
  | wrote =>
    dsimp only at h
    split at h
    · obtain ⟨rfl, _⟩ := Prod.mk.inj (Option.some.inj h)
      exact write_left _ _ _
    · cases h
  | recv =>
    dsimp only at h
    split at h
    · split at h
      · simp only [Option.map_eq_some_iff, Prod.mk.injEq] at h
        obtain ⟨_, _, rfl, _⟩ := h
        exact deliver_left _ _ _ _
      · cases h
    · cases h
  | giveUp | writeFails unsent | dropStream =>
    dsimp only at h
    split at h
    · obtain ⟨rfl, _⟩ := Prod.mk.inj (Option.some.inj h)
      simp [ret]
    · cases h
  | dropReceiver =>
    dsimp only at h
    split at h
    · obtain ⟨_, _, same⟩ := Option.map_eq_some_iff.mp h
      obtain ⟨rfl, _⟩ := Prod.mk.inj same
      simp
    · obtain ⟨rfl, _⟩ := Prod.mk.inj (Option.some.inj h)
      simp
    · cases h

/-- A thread that has returned only closes its stream. -/
theorem step_returned [StateRepository σ] {responses : SerdeJson ServerResponse}
    {messages : SerdeJson StreamMessage} {streamId : String} {a : ServeAction} {o : Output}
    (h : c.step responses messages streamId a = some (c', o))
    (returned : c.serving.returned = true) : c'.serving.returned = true := by
  cases here : c.serving with
  | closing written =>
    unfold step at h
    cases a <;> simp only [here, reduceCtorEq, Option.some.injEq, Prod.mk.injEq] at h
    obtain ⟨rfl, _⟩ := h
    rfl
  | closed =>
    unfold step at h
    cases a <;> simp [here] at h
  | _ =>
    rw [here] at returned
    cases returned

end Connection

end Kesharon.Server

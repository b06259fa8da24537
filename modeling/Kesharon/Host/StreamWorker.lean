import Kesharon.Framework.Machine
import Kesharon.Host.Client

namespace Kesharon.Host

open Framework Protocol

/-- Milliseconds. -/
def INITIAL_BACKOFF : Nat := 50

def MAX_BACKOFF : Nat := 1000

def nextBackoff (current : Nat) : Nat :=
  let doubled := current * 2
  if MAX_BACKOFF < doubled then MAX_BACKOFF else doubled

/-- The worker's timeout for one message. -/
def READ_TIMEOUT : Nat := 150

inductive DaemonStreamUpdate where
  | message (message : StreamMessage)
  | reconnecting
  | unavailable (message : String)
  deriving DecidableEq, Repr

/-- Where a stream worker stands in its two loops; at a `check` it is about to load its
cancel flag. -/
inductive Location where
  | connectCheck
  | readingClient
  | reconnecting
  | sleepCheck
  | sleeping
  | subscribeCheck
  | subscribing
  | subscribed (result : Except HostError DaemonSubscription)
  | announcing (snapshot : WorkspaceSnapshot)
  | loopCheck
  | readCheck
  | reading
  | received (result : Except HostError StreamMessage)
  | forwarding (message : StreamMessage)
  | recheckingClient
  | checkingHealth
  | lost
  | finished
  | panicked
  deriving DecidableEq

/-- A worker of `execute_subscribe_daemon_events`: its cancel flag and its locals. -/
structure StreamWorker where
  cancelled : Bool
  backoff : Nat
  hasConnectedOnce : Bool
  isReconnecting : Bool
  currentStreamId : String
  expectedSequence : UInt64
  location : Location

inductive WorkerAction where
  | cancel
  | check
  | client (present : Bool)
  | subscribeReturns (result : Except HostError DaemonSubscription)
  | send (delivered : Bool)
  | wake
  | readReturns (result : Except HostError StreamMessage)
  | healthReturns (ok : Bool)
  deriving DecidableEq

/-- The update a step sends, with whether the channel takes it, and the milliseconds it slept. -/
structure WorkerOutput where
  sent : Option (DaemonStreamUpdate × Bool) := none
  slept : Option Nat := none

namespace StreamWorker

def new : StreamWorker where
  cancelled := false
  backoff := INITIAL_BACKOFF
  hasConnectedOnce := false
  isReconnecting := false
  currentStreamId := ""
  expectedSequence := 0
  location := .connectCheck

def goTo (w : StreamWorker) (location : Location) : StreamWorker := { w with location := location }

/-- No client, or no subscription: say so once, then sleep. -/
def disconnect (w : StreamWorker) : StreamWorker :=
  if w.hasConnectedOnce ∧ w.isReconnecting = false then w.goTo .reconnecting
  else w.goTo .sleepCheck

/-- `sequence + 1`, which panics when it overflows. -/
def expectAfter (w : StreamWorker) (sequence : UInt64) (location : Location) : StreamWorker :=
  match checkedSucc sequence with
  | none => w.goTo .panicked
  | some expected => { w with expectedSequence := expected, location := location }

def connected (w : StreamWorker) (subscription : DaemonSubscription) : StreamWorker :=
  let w' := { w with
    backoff := INITIAL_BACKOFF
    hasConnectedOnce := true
    isReconnecting := false
    currentStreamId := subscription.streamId }
  w'.expectAfter subscription.initialSnapshot.lastSequence
    (.announcing subscription.initialSnapshot)

/-- The match on what a read returned. -/
def handle (w : StreamWorker) : Except HostError StreamMessage → StreamWorker
  | .ok (.event event) =>
    if event.streamId ≠ w.currentStreamId ∨ event.sequence ≠ w.expectedSequence then w.goTo .lost
    else w.expectAfter event.sequence (.forwarding (.event event))
  | .ok (.snapshot snapshot) =>
    ({ w with currentStreamId := snapshot.streamId }).expectAfter snapshot.lastSequence
      (.forwarding (.snapshot snapshot))
  | .error error => if error.isTimedOut then w.goTo .recheckingClient else w.goTo .lost

/-- What follows a load of the cancel flag. -/
def check (w : StreamWorker) : Option StreamWorker :=
  match w.location with
  | .connectCheck => some (w.goTo (if w.cancelled then .finished else .readingClient))
  | .sleepCheck => some (w.goTo (if w.cancelled then .finished else .sleeping))
  | .subscribeCheck =>
    some (w.goTo (if w.cancelled then .subscribed (.error (.runtime "cancelled"))
      else .subscribing))
  | .subscribed result =>
    if w.cancelled then some (w.goTo .finished)
    else
      match result with
      | .ok subscription => some (w.connected subscription)
      | .error _ => some w.disconnect
  | .loopCheck => some (w.goTo (if w.cancelled then .connectCheck else .readCheck))
  | .readCheck =>
    some (w.goTo (if w.cancelled then .received (.error (.runtime "cancelled")) else .reading))
  | .received result => if w.cancelled then some (w.goTo .connectCheck) else some (w.handle result)
  | _ => none

/-- What follows a send. The result of sending `Reconnecting` is ignored. -/
def send (w : StreamWorker) (delivered : Bool) : Option (StreamWorker × DaemonStreamUpdate) :=
  match w.location with
  | .reconnecting =>
    some (({ w with isReconnecting := true }).goTo .sleepCheck, .reconnecting)
  | .announcing snapshot =>
    some (w.goTo (if delivered then .loopCheck else .finished), .message (.snapshot snapshot))
  | .forwarding message =>
    some (w.goTo (if delivered then .loopCheck else .finished), .message message)
  | .lost => some (({ w with isReconnecting := true }).goTo .connectCheck, .reconnecting)
  | _ => none

def step (w : StreamWorker) : WorkerAction → Option (StreamWorker × WorkerOutput)
  | .cancel => some ({ w with cancelled := true }, {})
  | .check => w.check.map fun w' => (w', {})
  | .client present =>
    match w.location with
    | .readingClient => some (if present then w.goTo .subscribeCheck else w.disconnect, {})
    | .recheckingClient => some (w.goTo (if present then .checkingHealth else .lost), {})
    | _ => none
  | .subscribeReturns result =>
    match w.location with
    | .subscribing => some (w.goTo (.subscribed result), {})
    | _ => none
  | .send delivered =>
    (w.send delivered).map fun r => (r.1, { sent := some (r.2, delivered) })
  | .wake =>
    match w.location with
    | .sleeping =>
      some (({ w with backoff := nextBackoff w.backoff }).goTo .connectCheck,
        { slept := some w.backoff })
    | _ => none
  | .readReturns result =>
    match w.location with
    | .reading => some (w.goTo (.received result), {})
    | _ => none
  | .healthReturns ok =>
    match w.location with
    | .checkingHealth => some (w.goTo (if ok then .loopCheck else .lost), {})
    | _ => none

/-- The steps of a worker, by where it stands. -/
inductive Moves (w : StreamWorker) : WorkerAction → StreamWorker → WorkerOutput → Prop where
  | cancelled : Moves w .cancel { w with cancelled := true } {}
  | checked {w' : StreamWorker} (next : w.check = some w') : Moves w .check w' {}
  | clientFound (here : w.location = .readingClient) :
      Moves w (.client true) (w.goTo .subscribeCheck) {}
  | clientMissing (here : w.location = .readingClient) : Moves w (.client false) w.disconnect {}
  | clientRechecked (here : w.location = .recheckingClient) (present : Bool) :
      Moves w (.client present) (w.goTo (if present then .checkingHealth else .lost)) {}
  | subscribeReturned (here : w.location = .subscribing)
      (result : Except HostError DaemonSubscription) :
      Moves w (.subscribeReturns result) (w.goTo (.subscribed result)) {}
  | sent {w' : StreamWorker} {u : DaemonStreamUpdate} (delivered : Bool)
      (next : w.send delivered = some (w', u)) :
      Moves w (.send delivered) w' { sent := some (u, delivered) }
  | woke (here : w.location = .sleeping) :
      Moves w .wake (({ w with backoff := nextBackoff w.backoff }).goTo .connectCheck)
        { slept := some w.backoff }
  | readReturned (here : w.location = .reading) (result : Except HostError StreamMessage) :
      Moves w (.readReturns result) (w.goTo (.received result)) {}
  | healthReturned (here : w.location = .checkingHealth) (ok : Bool) :
      Moves w (.healthReturns ok) (w.goTo (if ok then .loopCheck else .lost)) {}

theorem step_moves {w w' : StreamWorker} {a : WorkerAction} {o : WorkerOutput}
    (h : w.step a = some (w', o)) : Moves w a w' o := by
  cases a with
  | cancel =>
    obtain ⟨rfl, rfl⟩ := Prod.mk.inj (Option.some.inj h)
    exact .cancelled
  | check =>
    simp only [step, Option.map_eq_some_iff, Prod.mk.injEq] at h
    obtain ⟨v, hv, rfl, rfl⟩ := h
    exact .checked hv
  | send delivered =>
    simp only [step, Option.map_eq_some_iff, Prod.exists, Prod.mk.injEq] at h
    obtain ⟨v, u, hv, rfl, rfl⟩ := h
    exact .sent delivered hv
  | client present =>
    unfold step at h
    cases here : w.location with
    | readingClient =>
      simp only [here, Option.some.injEq, Prod.mk.injEq] at h
      obtain ⟨rfl, rfl⟩ := h
      cases present
      · exact .clientMissing here
      · exact .clientFound here
    | recheckingClient =>
      simp only [here, Option.some.injEq, Prod.mk.injEq] at h
      obtain ⟨rfl, rfl⟩ := h
      exact .clientRechecked here present
    | _ => simp [here] at h
  | subscribeReturns result =>
    unfold step at h
    cases here : w.location with
    | subscribing =>
      simp only [here, Option.some.injEq, Prod.mk.injEq] at h
      obtain ⟨rfl, rfl⟩ := h
      exact .subscribeReturned here result
    | _ => simp [here] at h
  | wake =>
    unfold step at h
    cases here : w.location with
    | sleeping =>
      simp only [here, Option.some.injEq, Prod.mk.injEq] at h
      obtain ⟨rfl, rfl⟩ := h
      exact .woke here
    | _ => simp [here] at h
  | readReturns result =>
    unfold step at h
    cases here : w.location with
    | reading =>
      simp only [here, Option.some.injEq, Prod.mk.injEq] at h
      obtain ⟨rfl, rfl⟩ := h
      exact .readReturned here result
    | _ => simp [here] at h
  | healthReturns ok =>
    unfold step at h
    cases here : w.location with
    | checkingHealth =>
      simp only [here, Option.some.injEq, Prod.mk.injEq] at h
      obtain ⟨rfl, rfl⟩ := h
      exact .healthReturned here ok
    | _ => simp [here] at h

/-- While a call of it is in progress, a worker can only be cancelled. -/
theorem step_busy {w w' : StreamWorker} {a : WorkerAction} {o : WorkerOutput}
    (h : w.step a = some (w', o)) (busy : w.location = .reading ∨ w.location = .subscribing)
    (own : ∀ r, a ≠ .readReturns r) (refused : ∀ r, a ≠ .subscribeReturns r) :
    w'.location = w.location := by
  cases step_moves h with
  | cancelled => rfl
  | checked next => rcases busy with busy | busy <;> simp [check, busy] at next
  | sent delivered next => rcases busy with busy | busy <;> simp [send, busy] at next
  | clientFound here | clientMissing here | clientRechecked here | woke here
  | healthReturned here =>
    rcases busy with busy | busy <;> simp [busy] at here
  | subscribeReturned here result => exact absurd rfl (refused result)
  | readReturned here result => exact absurd rfl (own result)

end StreamWorker

def streamWorker : Machine StreamWorker WorkerAction WorkerOutput := ⟨StreamWorker.step⟩

end Kesharon.Host

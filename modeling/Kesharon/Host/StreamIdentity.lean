import Kesharon.Host.Alignment
import Kesharon.Host.Channel

namespace Kesharon.Host

open Framework Ipc Protocol

/-- A step of a worker and its connection, as the worker takes it. -/
def workerStep : StreamAction × StreamOutput → Option (WorkerAction × WorkerOutput)
  | (.worker a, o) => some (a, o.worker)
  | (_, o) => o.returned.map fun a => (a, o.worker)

abbrev workerSteps (tr : List (StreamAction × StreamOutput)) : List (WorkerAction × WorkerOutput) :=
  tr.filterMap workerStep

theorem run_worker {client : DaemonClient} {s : HostStream}
    {ok : HostStream → StreamAction → HostStream → Prop} {tr : List (StreamAction × StreamOutput)}
    (run : (hostStream client).Run ok .new tr s) :
    streamWorker.Run Machine.anyStep .new (workerSteps tr) s.worker := by
  apply run.project (f := HostStream.worker) (g := workerStep)
  intro t a u o hs
  have moved : HostStream.Moves client t a u o := HostStream.step_moves hs
  cases moved with
  | worker reads subscribes refused step => exact .one trivial step
  | subscribed call met done step => exact .one trivial step
  | read call met done step => exact .one trivial step
  | connected | began | subscribing | reading | wrote | arrived | closed => exact .nil _

section Handshake

variable {client : DaemonClient} {wire : Wire} {s s' : HostStream}

/-- The first frame of a connection is a response that is ready with this id. -/
def Announces (client : DaemonClient) (wire : Wire) (streamId : String) : Prop :=
  ∃ payload response, wire.frames[0]? = some payload ∧
    decodeServerResponseFrame client.responses (frameOf payload) = .ok response ∧
    response.result = some (.subscriptionReady streamId)

/-- The second frame of a connection is this snapshot. -/
def Introduces (client : DaemonClient) (wire : Wire) (snapshot : WorkspaceSnapshot) : Prop :=
  ∃ payload, wire.frames[1]? = some payload ∧
    decodeStreamMessageFrame client.messages (frameOf payload) = .ok (.snapshot snapshot)

/-- The two frames of a handshake name the same stream. -/
def OneStream (client : DaemonClient) (wire : Wire) : Prop :=
  ∀ streamId snapshot, Announces client wire streamId → Introduces client wire snapshot →
    streamId = snapshot.streamId

theorem Announces.unique {i j : String} (h : Announces client wire i)
    (h' : Announces client wire j) : i = j := by
  obtain ⟨p, r, here, decoded, ready⟩ := h
  obtain ⟨p', r', here', decoded', ready'⟩ := h'
  obtain rfl := Option.some.inj (here.symm.trans here')
  obtain rfl := Except.ok.inj (decoded.symm.trans decoded')
  rw [ready] at ready'
  cases ready'
  rfl

theorem Introduces.unique {i j : WorkspaceSnapshot} (h : Introduces client wire i)
    (h' : Introduces client wire j) : i = j := by
  obtain ⟨p, here, decoded⟩ := h
  obtain ⟨p', here', decoded'⟩ := h'
  obtain rfl := Option.some.inj (here.symm.trans here')
  rw [decoded] at decoded'
  cases decoded'
  rfl

theorem oneStream_iff {i : String} {snapshot : WorkspaceSnapshot} (first : Announces client wire i)
    (second : Introduces client wire snapshot) :
    OneStream client wire ↔ i = snapshot.streamId := by
  constructor
  · intro one
    exact one i snapshot first second
  · intro same j other announces introduces
    rw [← first.unique announces, ← second.unique introduces]
    exact same

/-- Where a call of `subscribe` is: in the response, or in the snapshot behind it. -/
inductive Greeting (client : DaemonClient) (wire : Wire)
    (b : Blocked (Except HostError DaemonSubscription)) : Prop where
  | response {c : List UInt8} (frame : InFrame client.ioTimeout
      (takeReady client.responses client.messages client.ioTimeout) c b) (inside : wire.Inside 0 c)
  | snapshot {c : List UInt8} {streamId : String}
      (frame : InFrame client.ioTimeout (takeSnapshot client.messages streamId) c b)
      (inside : wire.Inside 1 c) (announces : Announces client wire streamId)

theorem Greeting.keep {wire' : Wire} {b : Blocked (Except HostError DaemonSubscription)}
    (h : Greeting client wire b) (stays : ∀ k c, wire.Inside k c → wire'.Inside k c)
    (frames : ∀ payload, wire.frames[0]? = some payload → wire'.frames[0]? = some payload) :
    Greeting client wire' b := by
  cases h with
  | response frame inside => exact .response frame (stays _ _ inside)
  | snapshot frame inside announces =>
    obtain ⟨payload, response, here, decoded⟩ := announces
    exact .snapshot frame (stays _ _ inside) ⟨payload, response, frames payload here, decoded⟩

/-- Behind its first frame `subscribe` goes on, if that is a response that is ready. -/
theorem takeReady_goes_on (client : DaemonClient) (frame : List UInt8) :
    (∀ subscription, (takeReady client.responses client.messages client.ioTimeout frame).start ≠
        .inr (.ok subscription)) ∧
      ∀ b, (takeReady client.responses client.messages client.ioTimeout frame).start = .inl b →
        ∃ streamId response, decodeServerResponseFrame client.responses frame = .ok response ∧
          response.result = some (.subscriptionReady streamId) ∧
          InFrame client.ioTimeout (takeSnapshot client.messages streamId) [] b := by
  unfold takeReady
  cases decoded : decodeServerResponseFrame client.responses frame with
  | error e => exact ⟨by simp [Reads.start], by simp [Reads.start]⟩
  | ok response =>
    dsimp only
    split
    · rename_i streamId ready
      obtain ⟨b', start, frame'⟩ := start_readFrame client.ioTimeout
        (takeSnapshot client.messages streamId)
      rw [start]
      refine ⟨by simp, ?_⟩
      intro b turned
      obtain rfl := Sum.inl.inj turned
      exact ⟨streamId, response, rfl, ready, frame'⟩
    · exact ⟨by simp [Reads.start], by simp [Reads.start]⟩

/-- Behind its second frame `subscribe` is done, with the snapshot if it is one. -/
theorem takeSnapshot_done (json : SerdeJson StreamMessage) (streamId : String)
    (frame : List UInt8) :
    (∀ b, (takeSnapshot json streamId frame).start ≠ .inl b) ∧
      ∀ subscription, (takeSnapshot json streamId frame).start = .inr (.ok subscription) →
        subscription.streamId = streamId ∧
          decodeStreamMessageFrame json frame = .ok (.snapshot subscription.initialSnapshot) := by
  unfold takeSnapshot
  cases decoded : decodeStreamMessageFrame json frame with
  | error e => exact ⟨by simp [Reads.start], by simp [Reads.start]⟩
  | ok message =>
    cases message with
    | event event => exact ⟨by simp [Reads.start], by simp [Reads.start]⟩
    | snapshot snapshot =>
      refine ⟨by simp [Reads.start], ?_⟩
      intro subscription returned
      obtain rfl := Except.ok.inj (Sum.inr.inj returned)
      exact ⟨rfl, rfl⟩

/-- A turn of `subscribe` goes on, or fails, or returns what the two frames say. -/
theorem Greeting.turn {wire' : Wire} {b : Blocked (Except HostError DaemonSubscription)}
    {read : WireRead} {result : ReadResult} (h : Greeting client wire b) (valid : wire.Valid)
    (met : wire.read b.call.need read = some (result, wire')) (late : Nat) :
    (∀ b', b.turn ⟨result,late⟩ = .inl b' → Greeting client wire' b') ∧
      ∀ subscription, b.turn ⟨result,late⟩ = .inr (.ok subscription) →
        Announces client wire' subscription.streamId ∧
          Introduces client wire' subscription.initialSnapshot := by
  cases h with
  | response frame inside =>
    rcases frame.turn valid inside met late with
      ⟨c', b', waits, frame', inside'⟩ | ⟨payload, here, inside', done⟩ | ⟨e, rfl, failed, _⟩
    · refine ⟨?_, by simp [waits]⟩
      intro b'' turned
      obtain rfl := Sum.inl.inj (waits.symm.trans turned)
      exact .response frame' inside'
    · obtain ⟨never, goes⟩ := takeReady_goes_on client (frameOf payload)
      rw [done]
      refine ⟨?_, fun subscription returned => absurd returned (never subscription)⟩
      intro b' turned
      obtain ⟨streamId, response, decoded, ready, frame'⟩ := goes b' turned
      exact .snapshot frame' inside' ⟨payload, response, here, decoded, ready⟩
    · exact ⟨by simp [failed], by simp [failed]⟩
  | @snapshot c streamId frame inside announces =>
    have announced : Announces client wire' streamId := by
      unfold Announces
      rw [Wire.read_frames met]
      exact announces
    rcases frame.turn valid inside met late with
      ⟨c', b', waits, frame', inside'⟩ | ⟨payload, here, inside', done⟩ | ⟨e, rfl, failed, _⟩
    · refine ⟨?_, by simp [waits]⟩
      intro b'' turned
      obtain rfl := Sum.inl.inj (waits.symm.trans turned)
      exact .snapshot frame' inside' announced
    · obtain ⟨never, returns⟩ := takeSnapshot_done client.messages streamId (frameOf payload)
      rw [done]
      refine ⟨fun b' turned => absurd turned (never b'), ?_⟩
      intro subscription returned
      obtain ⟨rfl, decoded⟩ := returns subscription returned
      exact ⟨announced, payload, here, decoded⟩
    · exact ⟨by simp [failed], by simp [failed]⟩

/-- What holds of a stream in every run. -/
structure Greets (client : DaemonClient) (s : HostStream) : Prop where
  valid : s.wire.Valid
  greeting : ∀ b, s.call = some (.subscribing b) → Greeting client s.wire b

theorem Greets.step {a : StreamAction} {o : StreamOutput} (h : Greets client s)
    (step : s.step client a = some (s', o)) : Greets client s' := by
  refine ⟨HostStream.step_valid h.valid step, ?_⟩
  intro b' call'
  cases HostStream.step_moves step with
  | worker reads subscribes refused moved => exact h.greeting b' call'
  | connected here free start =>
    obtain ⟨b, start', frame⟩ := start_readFrame client.ioTimeout
      (takeReady client.responses client.messages client.ioTimeout)
    obtain rfl := Sum.inl.inj (start'.symm.trans start)
    cases call'
    exact .response frame ⟨Nat.le_refl _, List.nil_prefix, rfl⟩
  | began => cases call'
  | subscribing call met waits =>
    cases call'
    exact ((h.greeting _ call).turn h.valid met _).1 b' waits
  | subscribed => cases call'
  | reading => cases call'
  | read => cases call'
  | wrote opened fits =>
    apply (h.greeting b' call').keep (fun _ _ inside => inside.write _)
    intro payload here
    change (s.wire.frames ++ _)[0]? = some payload
    rw [List.getElem?_append_left (List.getElem?_eq_some_iff.mp here).1]
    exact here
  | arrived count =>
    exact (h.greeting b' call').keep (fun _ _ inside => inside.arrive _) fun _ here => here
  | closed count opened =>
    exact (h.greeting b' call').keep (fun _ _ inside => inside.close _) fun _ here => here

/-- A subscription is what the two frames of its handshake say. -/
theorem subscription_frames {ok : HostStream → StreamAction → HostStream → Prop}
    {tr : List (StreamAction × StreamOutput)} {a : StreamAction} {o : StreamOutput}
    (run : (hostStream client).Run ok .new (tr ++ [(a, o)]) s) {subscription : DaemonSubscription}
    (returned : o.returned = some (.subscribeReturns (.ok subscription))) :
    Announces client s.wire subscription.streamId ∧
      Introduces client s.wire subscription.initialSnapshot := by
  obtain ⟨t, before, _, hs⟩ := run.last
  have greets : Greets client t := by
    apply before.invariant (I := Greets client)
    · exact ⟨Wire.new_valid, by simp [HostStream.new]⟩
    · intro t a u o h _ hs
      exact h.step hs
  have moved : HostStream.Moves client t a s o := HostStream.step_moves hs
  cases moved with
  | subscribed call met done step =>
    cases returned
    exact ((greets.greeting _ call).turn greets.valid met _).2 subscription done
  | read call met done step => cases returned
  | worker | connected | began | subscribing | reading | wrote | arrived | closed => cases returned

end Handshake

namespace DaemonStreamUpdate

def snapshot : DaemonStreamUpdate → Option WorkspaceSnapshot
  | .message (.snapshot snapshot) => some snapshot
  | _ => none

end DaemonStreamUpdate

/-- The snapshot forwarded most recently. -/
def lastSnapshot (us : List DaemonStreamUpdate) : Option WorkspaceSnapshot :=
  (us.filterMap DaemonStreamUpdate.snapshot).getLast?

theorem lastSnapshot_append (us : List DaemonStreamUpdate) (u : DaemonStreamUpdate) :
    lastSnapshot (us ++ [u]) = u.snapshot.or (lastSnapshot us) := by
  unfold lastSnapshot
  rw [List.filterMap_append]
  cases h : u.snapshot with
  | none => simp [h]
  | some snapshot => simp [h]

/-- Nothing is forwarded, or not before `Reconnecting`. -/
def Withheld (us : List DaemonStreamUpdate) : Prop :=
  us = [] ∨ ∃ rest, us = .reconnecting :: rest

/-- Each forwarded event is of the stream of the snapshot forwarded last; a handshake that names
two streams, and an event of another stream, lead to nothing but `Reconnecting`. -/
structure OfOneStream (tr : List (WorkerAction × WorkerOutput)) : Prop where
  events : ∀ us vs event, sentUpdates tr = us ++ .message (.event event) :: vs →
    ∃ snapshot, lastSnapshot us = some snapshot ∧ event.streamId = snapshot.streamId
  handshake : ∀ xs o ys subscription, tr = xs ++ (.subscribeReturns (.ok subscription), o) :: ys →
    subscription.streamId ≠ subscription.initialSnapshot.streamId → Withheld (sentUpdates ys)
  later : ∀ xs o ys event snapshot, tr = xs ++ (.readReturns (.ok (.event event)), o) :: ys →
    lastSnapshot (sentUpdates xs) = some snapshot → event.streamId ≠ snapshot.streamId →
      Withheld (sentUpdates ys)

/-- The handshakes behind which something is sent name one stream. -/
def Matching (tr : List (WorkerAction × WorkerOutput)) : Prop :=
  ∀ xs o ys subscription, tr = xs ++ (.subscribeReturns (.ok subscription), o) :: ys →
    sentUpdates ys ≠ [] → subscription.streamId = subscription.initialSnapshot.streamId

theorem Matching.initial {xs ys : List (WorkerAction × WorkerOutput)} (h : Matching (xs ++ ys)) :
    Matching xs := by
  rintro xs₁ o xs₂ subscription rfl sent
  apply h xs₁ o (xs₂ ++ ys) subscription (by simp)
  rw [sentUpdates_append]
  intro nothing
  exact sent (List.append_eq_nil_iff.mp nothing).1

namespace StreamWorker

/-- What a worker knows of the stream it reads from. -/
def Knows (tr : List (WorkerAction × WorkerOutput)) (w : StreamWorker) : Prop :=
  match w.location with
  | .subscribed (.ok subscription) =>
    ∃ xs o ys, tr = xs ++ (.subscribeReturns (.ok subscription), o) :: ys
  | .announcing snapshot => ∃ xs o ys subscription,
    tr = xs ++ (.subscribeReturns (.ok subscription), o) :: ys ∧
      subscription.initialSnapshot = snapshot ∧ w.currentStreamId = subscription.streamId
  | .forwarding (.snapshot snapshot) => w.currentStreamId = snapshot.streamId
  | .forwarding (.event event) => event.streamId = w.currentStreamId ∧
    ∃ snapshot, lastSnapshot (sentUpdates tr) = some snapshot ∧
      w.currentStreamId = snapshot.streamId
  | .loopCheck | .readCheck | .reading | .received _ | .recheckingClient | .checkingHealth =>
    ∃ snapshot, lastSnapshot (sentUpdates tr) = some snapshot ∧
      w.currentStreamId = snapshot.streamId
  | _ => True

variable {w w' : StreamWorker} {a : WorkerAction} {o : WorkerOutput}
variable {tr : List (WorkerAction × WorkerOutput)}

theorem sentUpdates_snoc (tr : List (WorkerAction × WorkerOutput)) (a : WorkerAction)
    (o : WorkerOutput) :
    sentUpdates (tr ++ [(a, o)]) = sentUpdates tr ++ (o.sent.map Prod.fst).toList := by
  rw [sentUpdates_append]
  cases h : o.sent with
  | none => simp [sentUpdates, h]
  | some r => simp [sentUpdates, h]

theorem Knows.quiet (h : w.Knows tr) (quiet : o.sent = none) : w.Knows (tr ++ [(a, o)]) := by
  have same : sentUpdates (tr ++ [(a, o)]) = sentUpdates tr := by
    rw [sentUpdates_snoc, quiet]
    exact List.append_nil _
  unfold Knows at h ⊢
  rw [same]
  cases here : w.location with
  | subscribed result =>
    cases result with
    | error e => trivial
    | ok subscription =>
      simp only [here] at h
      obtain ⟨xs, o', ys, rfl⟩ := h
      exact ⟨xs, o', ys ++ [(a, o)], by simp⟩
  | announcing snapshot =>
    simp only [here] at h
    obtain ⟨xs, o', ys, subscription, rfl, rest⟩ := h
    exact ⟨xs, o', ys ++ [(a, o)], subscription, by simp, rest⟩
  | forwarding message =>
    simp only [here] at h
    cases message with
    | snapshot snapshot => exact h
    | event event => exact h
  | _ =>
    simp only [here] at h
    exact h

theorem knows_expectAfter {sequence : UInt64} {location : Location}
    (h : ({ w with location := location } : StreamWorker).Knows tr) :
    (w.expectAfter sequence location).Knows tr := by
  unfold expectAfter
  cases checkedSucc sequence with
  | none => trivial
  | some expected => exact h

theorem check_knows (h : w.Knows tr) (next : w.check = some w') : w'.Knows tr := by
  unfold check at next
  unfold Knows at h
  cases here : w.location with
  | connectCheck =>
    simp only [here, Option.some.injEq] at next
    rw [← next]
    cases w.cancelled <;> trivial
  | sleepCheck =>
    simp only [here, Option.some.injEq] at next
    rw [← next]
    cases w.cancelled <;> trivial
  | subscribeCheck =>
    simp only [here, Option.some.injEq] at next
    rw [← next]
    cases w.cancelled <;> trivial
  | subscribed result =>
    simp only [here] at h next
    split_ifs at next
    · obtain rfl := Option.some.inj next
      trivial
    · cases result with
      | error e =>
        obtain rfl := Option.some.inj next
        unfold disconnect
        split_ifs <;> trivial
      | ok subscription =>
        obtain rfl := Option.some.inj next
        obtain ⟨xs, o, ys, cut⟩ := h
        apply knows_expectAfter
        exact ⟨xs, o, ys, subscription, cut, rfl, rfl⟩
  | loopCheck =>
    simp only [here, Option.some.injEq] at h next
    rw [← next]
    cases w.cancelled with
    | true => trivial
    | false => exact h
  | readCheck =>
    simp only [here, Option.some.injEq] at h next
    rw [← next]
    cases w.cancelled with
    | true => exact h
    | false => exact h
  | received result =>
    simp only [here] at h next
    split_ifs at next
    · obtain rfl := Option.some.inj next
      trivial
    · obtain rfl := Option.some.inj next
      cases result with
      | error e =>
        simp only [handle]
        split_ifs
        · exact h
        · trivial
      | ok message =>
        cases message with
        | snapshot snapshot => exact knows_expectAfter rfl
        | event event =>
          simp only [handle]
          split_ifs with foreign
          · trivial
          · rw [not_or, not_not, not_not] at foreign
            exact knows_expectAfter ⟨foreign.1, h⟩
  | _ => simp [here] at next

/-- What a worker sends, as long as handshakes name one stream. -/
theorem send_knows {delivered : Bool} {u : DaemonStreamUpdate} (h : w.Knows tr)
    (matching : Matching (tr ++ [(a, { sent := some (u, delivered) })]))
    (next : w.send delivered = some (w', u)) :
    w'.Knows (tr ++ [(a, { sent := some (u, delivered) })]) ∧
      ∀ event, u = .message (.event event) → ∃ snapshot,
        lastSnapshot (sentUpdates tr) = some snapshot ∧ event.streamId = snapshot.streamId := by
  have sent : sentUpdates (tr ++ [(a, { sent := some (u, delivered) })]) = sentUpdates tr ++ [u] :=
    sentUpdates_snoc tr a _
  unfold send at next
  unfold Knows at h
  cases here : w.location with
  | reconnecting =>
    simp only [here, Option.some.injEq, Prod.mk.injEq] at next
    obtain ⟨rfl, rfl⟩ := next
    exact ⟨trivial, by simp⟩
  | lost =>
    simp only [here, Option.some.injEq, Prod.mk.injEq] at next
    obtain ⟨rfl, rfl⟩ := next
    exact ⟨trivial, by simp⟩
  | announcing snapshot =>
    simp only [here, Option.some.injEq, Prod.mk.injEq] at h next
    obtain ⟨rfl, rfl⟩ := next
    refine ⟨?_, by simp⟩
    obtain ⟨xs, o, ys, subscription, rfl, rfl, current⟩ := h
    have named := matching xs o _ subscription (List.append_assoc xs (_ :: ys) _) (by
      rw [List.append_eq, sentUpdates_snoc]
      simp)
    cases delivered with
    | false => trivial
    | true =>
      refine ⟨subscription.initialSnapshot, ?_, current.trans named⟩
      rw [sent, lastSnapshot_append]
      rfl
  | forwarding message =>
    cases message with
    | snapshot snapshot =>
      simp only [here, Option.some.injEq, Prod.mk.injEq] at h next
      obtain ⟨rfl, rfl⟩ := next
      refine ⟨?_, by simp⟩
      cases delivered with
      | false => trivial
      | true =>
        refine ⟨snapshot, ?_, h⟩
        rw [sent, lastSnapshot_append]
        rfl
    | event event =>
      simp only [here, Option.some.injEq, Prod.mk.injEq] at h next
      obtain ⟨rfl, rfl⟩ := next
      obtain ⟨own, snapshot, last, current⟩ := h
      constructor
      · cases delivered with
        | false => trivial
        | true =>
          refine ⟨snapshot, ?_, current⟩
          rw [sent, lastSnapshot_append]
          exact last
      · intro event' same
        cases same
        exact ⟨snapshot, last, own.trans current⟩
  | _ => simp [here] at next

theorem knows_step (h : w.Knows tr) (matching : Matching (tr ++ [(a, o)]))
    (hs : w.step a = some (w', o)) :
    w'.Knows (tr ++ [(a, o)]) ∧ ∀ event delivered, o.sent = some (.message (.event event), delivered) →
      ∃ snapshot, lastSnapshot (sentUpdates tr) = some snapshot ∧
        event.streamId = snapshot.streamId := by
  cases step_moves hs with
  | cancelled => exact ⟨h.quiet rfl, by simp⟩
  | checked next => exact ⟨check_knows (h.quiet rfl) next, by simp⟩
  | clientFound => exact ⟨trivial, by simp⟩
  | clientMissing =>
    refine ⟨?_, by simp⟩
    unfold disconnect
    split_ifs <;> trivial
  | clientRechecked here present =>
    have kept := h.quiet (a := .client present) (o := {}) rfl
    unfold Knows at kept
    simp only [here] at kept
    refine ⟨?_, by simp⟩
    cases present with
    | false => trivial
    | true => exact kept
  | subscribeReturned here result =>
    refine ⟨?_, by simp⟩
    cases result with
    | error e => trivial
    | ok subscription => exact ⟨tr, {}, [], rfl⟩
  | sent delivered next =>
    obtain ⟨knows, own⟩ := send_knows h matching next
    refine ⟨knows, ?_⟩
    intro event delivered' same
    cases same
    exact own event rfl
  | woke => exact ⟨trivial, by simp⟩
  | readReturned here result =>
    have kept := h.quiet (a := .readReturns result) (o := {}) rfl
    unfold Knows at kept
    simp only [here] at kept
    exact ⟨kept, by simp⟩
  | healthReturned here ok =>
    have kept := h.quiet (a := .healthReturns ok) (o := {}) rfl
    unfold Knows at kept
    simp only [here] at kept
    refine ⟨?_, by simp⟩
    cases ok with
    | false => trivial
    | true => exact kept

/-- A worker behind a handshake, before it has sent anything. -/
def Opening (snapshot : WorkspaceSnapshot) (w : StreamWorker) : Prop :=
  match w.location with
  | .subscribed (.ok subscription) => subscription.initialSnapshot = snapshot
  | .announcing initial => initial = snapshot
  | .finished | .panicked => True
  | _ => False

/-- A worker that has received an event of another stream, before it has sent anything. -/
def Foreign (w : StreamWorker) : Prop :=
  match w.location with
  | .received (.ok (.event event)) => event.streamId ≠ w.currentStreamId
  | .connectCheck => w.cancelled = true
  | .lost | .finished => True
  | _ => False

theorem Opening.step {snapshot : WorkspaceSnapshot} (h : w.Opening snapshot)
    (hs : w.step a = some (w', o)) : (o.sent = none ∧ w'.Opening snapshot) ∨
      ∃ u d, o.sent = some (u, d) ∧ u = .message (.snapshot snapshot) := by
  cases step_moves hs with
  | cancelled => exact .inl ⟨rfl, h⟩
  | checked next =>
    refine .inl ⟨rfl, ?_⟩
    unfold check at next
    unfold Opening at h
    cases here : w.location with
    | subscribed result =>
      simp only [here] at h next
      cases result with
      | error e => exact h.elim
      | ok subscription =>
        split_ifs at next
        · obtain rfl := Option.some.inj next
          trivial
        · obtain rfl := Option.some.inj next
          unfold connected expectAfter
          cases checkedSucc subscription.initialSnapshot.lastSequence with
          | none => trivial
          | some expected => exact h
    | _ => simp [here] at h next
  | sent delivered next =>
    unfold send at next
    unfold Opening at h
    cases here : w.location with
    | announcing initial =>
      simp only [here, Option.some.injEq, Prod.mk.injEq] at h next
      obtain ⟨_, rfl⟩ := next
      rw [h]
      exact .inr ⟨_, delivered, rfl, rfl⟩
    | _ => simp [here] at h next
  | clientFound here | clientMissing here | clientRechecked here | subscribeReturned here
  | woke here | readReturned here | healthReturned here =>
    unfold Opening at h
    simp [here] at h

theorem Foreign.step (h : w.Foreign) (hs : w.step a = some (w', o)) :
    (o.sent = none ∧ w'.Foreign) ∨ ∃ u d, o.sent = some (u, d) ∧ u = .reconnecting := by
  cases step_moves hs with
  | cancelled =>
    refine .inl ⟨rfl, ?_⟩
    unfold Foreign at h ⊢
    cases here : w.location with
    | connectCheck => rfl
    | lost => trivial
    | finished => trivial
    | received result =>
      simp only [here] at h
      cases result with
      | error e => exact h.elim
      | ok message =>
        cases message with
        | snapshot snapshot => exact h.elim
        | event event => exact h
    | _ => simp [here] at h
  | checked next =>
    refine .inl ⟨rfl, ?_⟩
    unfold check at next
    unfold Foreign at h
    cases here : w.location with
    | connectCheck =>
      simp only [here, Option.some.injEq] at h next
      rw [← next, h]
      trivial
    | received result =>
      simp only [here] at h next
      split_ifs at next with cancelled
      · obtain rfl := Option.some.inj next
        exact cancelled
      · obtain rfl := Option.some.inj next
        cases result with
        | error e => exact h.elim
        | ok message =>
          cases message with
          | snapshot snapshot => exact h.elim
          | event event =>
            simp only [handle]
            rw [if_pos (.inl h)]
            trivial
    | _ => simp [here] at h next
  | sent delivered next =>
    unfold send at next
    unfold Foreign at h
    cases here : w.location with
    | lost =>
      simp only [here, Option.some.injEq, Prod.mk.injEq] at next
      obtain ⟨_, rfl⟩ := next
      exact .inr ⟨_, delivered, rfl, rfl⟩
    | _ => simp [here] at h next
  | clientFound here | clientMissing here | clientRechecked here | subscribeReturned here
  | woke here | readReturned here | healthReturned here =>
    unfold Foreign at h
    simp [here] at h

end StreamWorker

section Runs

variable {ok : StreamWorker → WorkerAction → StreamWorker → Prop} {w : StreamWorker}
variable {tr xs ys : List (WorkerAction × WorkerOutput)} {o : WorkerOutput}

theorem split_snoc {α : Type*} {us vs xs : List α} {u x : α} (cut : xs ++ [x] = us ++ u :: vs) :
    (∃ vs', xs = us ++ u :: vs') ∨ (xs = us ∧ x = u) := by
  cases vs using List.reverseRecOn with
  | nil =>
    obtain ⟨rfl, same⟩ := List.append_inj' cut rfl
    exact .inr ⟨rfl, List.singleton_inj.mp same⟩
  | append_singleton vs v =>
    rw [← List.cons_append, ← List.append_assoc] at cut
    exact .inl ⟨vs, (List.append_inj' cut rfl).1⟩

/-- While handshakes name one stream, a worker knows its stream, and its events are of it. -/
theorem run_knows (run : streamWorker.Run ok .new tr w) (matching : Matching tr) :
    w.Knows tr ∧ ∀ us vs event, sentUpdates tr = us ++ .message (.event event) :: vs →
      ∃ snapshot, lastSnapshot us = some snapshot ∧ event.streamId = snapshot.streamId := by
  induction run with
  | nil =>
    refine ⟨trivial, ?_⟩
    intro us vs event cut
    simp [sentUpdates] at cut
  | @snoc t u tr a o before allowed hs ih =>
    obtain ⟨knows, events⟩ := ih matching.initial
    obtain ⟨knows', own⟩ := StreamWorker.knows_step knows matching hs
    refine ⟨knows', ?_⟩
    intro us vs event cut
    rw [StreamWorker.sentUpdates_snoc] at cut
    cases sent : o.sent with
    | none =>
      rw [sent, Option.map_none, Option.toList_none, List.append_nil] at cut
      exact events us vs event cut
    | some r =>
      rw [sent, Option.map_some, Option.toList_some] at cut
      rcases split_snoc cut with ⟨vs', earlier⟩ | ⟨rfl, same⟩
      · exact events us vs' event earlier
      · apply own event r.2
        rw [sent, ← same]

theorem handshake_first {subscription : DaemonSubscription}
    (run : streamWorker.Run ok .new (xs ++ (.subscribeReturns (.ok subscription), o) :: ys) w) :
    sentUpdates ys = [] ∨
      ∃ rest, sentUpdates ys = .message (.snapshot subscription.initialSnapshot) :: rest := by
  obtain ⟨t, t', _, _, hs, after⟩ := run.at_step
  have moved : t.Moves (.subscribeReturns (.ok subscription)) t' o := StreamWorker.step_moves hs
  cases moved with
  | subscribeReturned here result =>
    have opening : (t.goTo (.subscribed (.ok subscription))).Opening subscription.initialSnapshot := rfl
    have first := run_first _ opening (fun v a v' o h hs => StreamWorker.Opening.step h hs) after
    rcases first with nothing | ⟨u, rest, said, rfl⟩
    · exact .inl nothing
    · exact .inr ⟨rest, said⟩

/-- A worker stays with one stream exactly if the handshakes behind which it sends anything name
one. -/
theorem ofOneStream_iff (run : streamWorker.Run ok .new tr w) : OfOneStream tr ↔ Matching tr := by
  constructor
  · rintro h xs o ys subscription rfl sent
    by_contra differ
    rcases handshake_first run with nothing | ⟨rest, said⟩
    · exact sent nothing
    · rcases h.handshake xs o ys subscription rfl differ with nothing | ⟨rest', reconnecting⟩
      · exact sent nothing
      · rw [said] at reconnecting
        cases reconnecting
  · intro matching
    refine ⟨(run_knows run matching).2, ?_, ?_⟩
    · intro xs o ys subscription cut differ
      by_contra forwarded
      rw [Withheld, not_or] at forwarded
      exact differ (matching xs o ys subscription cut forwarded.1)
    · rintro xs o ys event snapshot rfl last foreign
      obtain ⟨t, t', before, _, hs, after⟩ := run.at_step
      have knows := (run_knows before matching.initial).1
      have moved : t.Moves (.readReturns (.ok (.event event))) t' o := StreamWorker.step_moves hs
      cases moved with
      | readReturned here result =>
        simp only [StreamWorker.Knows, here] at knows
        obtain ⟨snapshot', last', current⟩ := knows
        obtain rfl := Option.some.inj (last.symm.trans last')
        have other : (t.goTo (.received (.ok (.event event)))).Foreign := by
          change event.streamId ≠ t.currentStreamId
          rw [current]
          exact foreign
        have first := run_first _ other (fun v a v' o h hs => StreamWorker.Foreign.step h hs) after
        rcases first with nothing | ⟨u, rest, said, rfl⟩
        · exact .inl nothing
        · exact .inr ⟨rest, said⟩

end Runs

/-- A worker takes the step of a subscription when a call returns one. -/
theorem subscription_step {client : DaemonClient} {s : HostStream}
    {ok : HostStream → StreamAction → HostStream → Prop} {tr : List (StreamAction × StreamOutput)}
    {p : StreamAction × StreamOutput} (run : (hostStream client).Run ok .new (tr ++ [p]) s)
    (subscription : DaemonSubscription) :
    (∃ o, workerStep p = some (.subscribeReturns (.ok subscription), o)) ↔
      p.2.returned = some (.subscribeReturns (.ok subscription)) := by
  obtain ⟨a, o⟩ := p
  obtain ⟨t, _, _, hs⟩ := run.last
  have moved : HostStream.Moves client t a s o := HostStream.step_moves hs
  cases moved with
  | worker reads subscribes refused step =>
    constructor
    · rintro ⟨o', seen⟩
      cases seen
      exact absurd rfl (subscribes subscription)
    · intro returned
      cases returned
  | subscribed | read | connected | began | subscribing | reading | wrote | arrived | closed =>
    constructor
    · rintro ⟨o', seen⟩
      cases seen <;> rfl
    · intro returned
      cases returned <;> exact ⟨_, rfl⟩

/-- Against any frames a worker stays with the stream of its last snapshot, in the events it
forwards and in what it makes of a mismatch, exactly if the two frames of each handshake behind
which it sends anything name one stream. -/
theorem forwarded_stream_iff (client : DaemonClient) {tr : List (StreamAction × StreamOutput)}
    {s : HostStream} (run : (hostStream client).Run Machine.anyStep .new tr s) :
    OfOneStream (workerSteps tr) ↔
      ∀ tr₁ p tr₂ s₁ subscription, tr = tr₁ ++ p :: tr₂ →
        (hostStream client).Run Machine.anyStep .new (tr₁ ++ [p]) s₁ →
        p.2.returned = some (.subscribeReturns (.ok subscription)) →
        sentUpdates (workerSteps tr₂) ≠ [] → OneStream client s₁.wire := by
  rw [ofOneStream_iff (run_worker run)]
  constructor
  · rintro matching tr₁ p tr₂ s₁ subscription rfl upTo returned sent
    obtain ⟨announces, introduces⟩ := subscription_frames upTo returned
    obtain ⟨o, seen⟩ := (subscription_step upTo subscription).mpr returned
    rw [oneStream_iff announces introduces]
    apply matching (workerSteps tr₁) o (workerSteps tr₂) subscription _ sent
    rw [workerSteps, List.filterMap_append, List.filterMap_cons_some seen]
  · intro one xs o ys subscription cut sent
    obtain ⟨tr₁, tr', rfl, rfl, rest⟩ := List.filterMap_eq_append_iff.mp cut
    obtain ⟨skipped, p, tr₂, rfl, none, seen, rfl⟩ := List.filterMap_eq_cons_iff.mp rest
    have whole : tr₁ ++ (skipped ++ p :: tr₂) = tr₁ ++ skipped ++ [p] ++ tr₂ := by simp
    rw [whole] at run
    obtain ⟨s₁, upTo, _⟩ := run.split
    have returned := (subscription_step upTo subscription).mp ⟨o, seen⟩
    obtain ⟨announces, introduces⟩ := subscription_frames upTo returned
    rw [← oneStream_iff announces introduces]
    exact one (tr₁ ++ skipped) p tr₂ s₁ subscription (by simp) upTo returned sent

/-- A worker subscribes, gets this snapshot, and reads the first event. -/
def eventBehind (snapshotText : String) : List StreamAction :=
  [.worker .check, .worker (.client true), .worker .check, .connect,
    .write (utf8 firstReadyText), .write (utf8 snapshotText), .write (utf8 firstEventText),
    .arrive 400, .turn (.bytes 4) 0, .turn (.bytes 200) 0, .turn (.bytes 4) 0, .turn (.bytes 200) 0,
    .worker .check, .worker (.send true), .worker .check, .worker .check, .startRead,
    .turn (.bytes 4) 0, .turn (.bytes 200) 0, .worker .check, .worker (.send true)]

def namesOne : Option WorkerAction → Bool
  | some (.subscribeReturns (.ok subscription)) =>
    subscription.streamId = subscription.initialSnapshot.streamId
  | _ => true

theorem forwarded_stream_iff_first :
    ∃ tr s, (hostStream firstClient).Run Machine.anyStep .new tr s ∧
      sentUpdates (workerSteps tr) = [.message firstSnapshot,.message firstEvent] ∧
      OfOneStream (workerSteps tr) := by
  have run := Machine.run_of_exec_isSome (hostStream firstClient) Machine.anyStep .new
    (eventBehind firstSnapshotText) (by decide +kernel)
  refine ⟨_, _, run, by decide +kernel, ?_⟩
  apply (forwarded_stream_iff firstClient run).mpr
  intro tr₁ p tr₂ s₁ subscription cut upTo returned _
  obtain ⟨announces, introduces⟩ := subscription_frames upTo returned
  have all : ∀ q ∈ (((hostStream firstClient).exec Machine.anyStep .new
      (eventBehind firstSnapshotText)).get (by decide +kernel)).1,
      namesOne q.2.returned = true := by decide +kernel
  have named := all p (by rw [cut]; simp)
  rw [returned] at named
  exact (oneStream_iff announces introduces).mpr (of_decide_eq_true named)

/-- The snapshot of another stream than the response says. -/
def strangeSnapshot : StreamMessage := .snapshot ⟨"t",0,none,[]⟩

def strangeSnapshotText : String :=
  "\x7b\"messageType\":\"snapshot\",\"snapshot\":\x7b\"streamId\":\"t\",\"lastSequence\":0," ++
    "\"project\":null,\"activeOperations\":[]\x7d\x7d"

def strangeClient : DaemonClient where
  responses := .ofTexts [(firstReady, firstReadyText)]
  messages := .ofTexts [(strangeSnapshot, strangeSnapshotText), (firstEvent, firstEventText)]
  ioTimeout := 2000

/-- Behind the snapshot of stream `t`, an event of stream `s` is forwarded. -/
theorem strange_snapshot_forwarded :
    ∃ tr s, (hostStream strangeClient).Run Machine.anyStep .new tr s ∧
      sentUpdates (workerSteps tr) =
        [.message (.snapshot ⟨"t",0,none,[]⟩),
         .message (.event ⟨PROTOCOL_VERSION,"s",1,.operationStarted "a" .openProject⟩)] := by
  have run := Machine.run_of_exec_isSome (hostStream strangeClient) Machine.anyStep .new
    (eventBehind strangeSnapshotText) (by decide +kernel)
  exact ⟨_, _, run, by decide +kernel⟩

end Kesharon.Host

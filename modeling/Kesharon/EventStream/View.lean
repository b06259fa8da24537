import Kesharon.EventStream.Carried
import Kesharon.Host.Misread

namespace Kesharon.EventStream

open Framework Application Daemon Host Ipc Protocol Server

/-- What a client knows behind an update: events are applied to a snapshot. -/
def viewStep (view : Option Replica) : DaemonStreamUpdate → Option Replica
  | .message (.snapshot snapshot) => some (.ofSnapshot snapshot)
  | .message (.event event) => view.map fun replica => replica.apply event
  | .reconnecting | .unavailable _ => view

def viewOf (updates : List DaemonStreamUpdate) : Option Replica := updates.foldl viewStep none

/-- The updates that the worker's channel took. -/
def delivered (tr : List (PartyAction × PartyOutput)) : List DaemonStreamUpdate :=
  tr.filterMap fun p => p.2.host.worker.sent.bind fun r => if r.2 then some r.1 else none

/-- The events of the daemon, in order. -/
def published (tr : List (PartyAction × PartyOutput)) : List DaemonEvent :=
  tr.flatMap fun p => p.2.session.events

section Worker

variable {streamId : String} {first : Replica} {events : List DaemonEvent}
variable {view : Option Replica} {w w' : StreamWorker} {a : WorkerAction} {o : WorkerOutput}

/-- The view behind a step of the worker. -/
def viewAfter (view : Option Replica) (o : WorkerOutput) : Option Replica :=
  match o.sent with
  | some (update, true) => viewStep view update
  | _ => view

/-- A view is the public state of the daemon after so many of its events. -/
def Faithful (first : Replica) (events : List DaemonEvent) (view : Option Replica) : Prop :=
  ∀ replica, view = some replica → replica.lastSequence.toNat ≤ events.length ∧
    replica = (events.take replica.lastSequence.toNat).foldl Replica.apply first

/-- No view goes back. -/
def Advances (view view' : Option Replica) : Prop :=
  ∀ replica, view = some replica → ∃ replica', view' = some replica' ∧
    replica.lastSequence.toNat ≤ replica'.lastSequence.toNat

/-- A snapshot that is not older than the view. -/
def Newer (view : Option Replica) (snapshot : WorkspaceSnapshot) : Prop :=
  ∀ replica, view = some replica →
    replica.lastSequence.toNat ≤ snapshot.lastSequence.toNat

/-- The worker waits for the event behind the view. -/
def Expects (streamId : String) (view : Option Replica) (w : StreamWorker) : Prop :=
  ∃ replica, view = some replica ∧ w.currentStreamId = streamId ∧
    w.expectedSequence.toNat = replica.lastSequence.toNat + 1

/-- What a worker knows of the daemon and of the view. -/
def Watches (streamId : String) (first : Replica) (events : List DaemonEvent)
    (view : Option Replica) (w : StreamWorker) : Prop :=
  match w.location with
  | .subscribed (.ok subscription) => subscription.streamId = streamId ∧
    Snapshotted streamId first events subscription.initialSnapshot ∧
    Newer view subscription.initialSnapshot
  | .announcing snapshot => Snapshotted streamId first events snapshot ∧ Newer view snapshot ∧
    w.currentStreamId = streamId ∧
    w.expectedSequence.toNat = snapshot.lastSequence.toNat + 1
  | .loopCheck | .readCheck | .reading | .recheckingClient | .checkingHealth
  | .received (.error _) => Expects streamId view w
  | .received (.ok message) => Expects streamId view w ∧ ∃ event ∈ events, message = .event event
  | .forwarding message => ∃ replica, view = some replica ∧ ∃ event ∈ events,
    message = .event event ∧ event.sequence.toNat = replica.lastSequence.toNat + 1 ∧
    w.currentStreamId = streamId ∧ w.expectedSequence.toNat = event.sequence.toNat + 1
  | _ => True

theorem Advances.refl (view : Option Replica) : Advances view view :=
  fun replica here => ⟨replica, here, Nat.le_refl _⟩

theorem Faithful.append (h : Faithful first events view) (more : List DaemonEvent) :
    Faithful first (events ++ more) view := by
  intro replica here
  obtain ⟨known, state⟩ := h replica here
  refine ⟨?_, ?_⟩
  · rw [List.length_append]
    exact Nat.le_add_right_of_le known
  · rw [List.take_append_of_le_length known]
    exact state

theorem Watches.append (h : Watches streamId first events view w) (more : List DaemonEvent) :
    Watches streamId first (events ++ more) view w := by
  unfold Watches at h ⊢
  cases here : w.location with
  | subscribed result =>
    rw [here] at h
    cases result with
    | error e => trivial
    | ok subscription => exact ⟨h.1, h.2.1.append more, h.2.2⟩
  | announcing snapshot =>
    rw [here] at h
    exact ⟨h.1.append more, h.2⟩
  | received result =>
    rw [here] at h
    cases result with
    | error e => exact h
    | ok message =>
      obtain ⟨follows, event, among, same⟩ := h
      exact ⟨follows, event, List.mem_append_left _ among, same⟩
  | forwarding message =>
    rw [here] at h
    obtain ⟨replica, seen, event, among, rest⟩ := h
    exact ⟨replica, seen, event, List.mem_append_left _ among, rest⟩
  | loopCheck | readCheck | reading | recheckingClient | checkingHealth =>
    rw [here] at h
    exact h
  | _ => trivial

/-- The event of a number is the last of so many. -/
theorem take_of_numbered (numbered : Numbered streamId 0 events) {event : DaemonEvent}
    (among : event ∈ events) :
    event.sequence.toNat ≤ events.length ∧ ∃ n, event.sequence.toNat = n + 1 ∧
      events.take (n + 1) = events.take n ++ [event] := by
  obtain ⟨i, inside, here⟩ := List.getElem_of_mem among
  have number : event.sequence.toNat = i + 1 := by
    have all := congrArg (fun ns => ns[i]?) numbered.numbers
    simp only [List.getElem?_map, List.getElem?_eq_getElem inside, here, Option.map_some] at all
    rw [List.getElem?_range' inside] at all
    have value := Option.some.inj all
    omega
  refine ⟨by omega, i, number, ?_⟩
  rw [List.take_add_one, List.getElem?_eq_getElem inside, here]
  rfl

/-- The snapshot that the worker announces. -/
theorem Snapshotted.faithful {snapshot : WorkspaceSnapshot}
    (h : Snapshotted streamId first events snapshot) :
    Faithful first events (some (.ofSnapshot snapshot)) := by
  intro replica same
  obtain rfl := Option.some.inj same
  exact ⟨h.known, h.state⟩

/-- The event behind the view. -/
theorem Faithful.apply {replica : Replica} {event : DaemonEvent}
    (h : Faithful first events (some replica)) (numbered : Numbered streamId 0 events)
    (among : event ∈ events) (next : event.sequence.toNat = replica.lastSequence.toNat + 1) :
    Faithful first events (some (replica.apply event)) := by
  intro after same
  obtain rfl := Option.some.inj same
  have last : (replica.apply event).lastSequence = event.sequence := by
    unfold Replica.apply
    cases event.payload <;> rfl
  obtain ⟨known, n, number, split⟩ := take_of_numbered numbered among
  obtain ⟨_, state⟩ := h replica rfl
  have before : replica.lastSequence.toNat = n := by omega
  rw [last, number]
  refine ⟨by omega, ?_⟩
  rw [split, List.foldl_append, ← before, ← state]
  rfl

theorem expectAfter_watches {n : UInt64} {location : Location}
    (h : ∀ expected : UInt64, expected.toNat = n.toNat + 1 →
      Watches streamId first events view { w with expectedSequence := expected, location := location }) :
    Watches streamId first events view (w.expectAfter n location) := by
  unfold StreamWorker.expectAfter
  cases next : checkedSucc n with
  | none => trivial
  | some expected => exact h expected (checkedSucc_eq_some.mp next).2

/-- A worker that takes an event takes the one behind its view. -/
theorem handle_watches {result : Except HostError StreamMessage}
    (follows : Expects streamId view w)
    (held : ∀ message, result = .ok message → ∃ event ∈ events, message = .event event) :
    Watches streamId first events view (w.handle result) := by
  unfold StreamWorker.handle
  cases result with
  | error e =>
    dsimp only
    split_ifs
    · exact follows
    · trivial
  | ok message =>
    obtain ⟨event, among, rfl⟩ := held message rfl
    dsimp only
    split_ifs with other
    · trivial
    · have expected : event.sequence = w.expectedSequence := by
        by_contra differs
        exact other (.inr differs)
      obtain ⟨replica, seen, stream, next⟩ := follows
      apply expectAfter_watches
      intro after number
      exact ⟨replica, seen, event, among, rfl, by rw [expected]; exact next, stream, number⟩

theorem check_watches (h : Watches streamId first events view w) (next : w.check = some w') :
    Watches streamId first events view w' := by
  unfold StreamWorker.check at next
  unfold Watches at h
  cases here : w.location with
  | connectCheck | sleepCheck | subscribeCheck =>
    simp only [here, Option.some.injEq] at next
    rw [← next]
    unfold Watches StreamWorker.goTo
    cases w.cancelled <;> trivial
  | subscribed result =>
    simp only [here] at next h
    split_ifs at next with cancelled
    · obtain rfl := Option.some.inj next
      trivial
    · cases result with
      | error e =>
        obtain rfl := Option.some.inj next
        unfold Watches StreamWorker.disconnect
        split_ifs <;> trivial
      | ok subscription =>
        obtain rfl := Option.some.inj next
        obtain ⟨stream, snapshotted, newer⟩ := h
        apply expectAfter_watches
        intro expected number
        exact ⟨snapshotted, newer, stream, number⟩
  | loopCheck =>
    simp only [here, Option.some.injEq] at next h
    rw [← next]
    unfold Watches StreamWorker.goTo
    cases w.cancelled
    · exact h
    · trivial
  | readCheck =>
    simp only [here, Option.some.injEq] at next h
    rw [← next]
    unfold Watches StreamWorker.goTo
    cases w.cancelled <;> exact h
  | received result =>
    simp only [here] at next h
    split_ifs at next with cancelled
    · obtain rfl := Option.some.inj next
      trivial
    · obtain rfl := Option.some.inj next
      cases result with
      | error e => exact handle_watches h (by simp)
      | ok message =>
        obtain ⟨follows, held⟩ := h
        refine handle_watches follows ?_
        intro m same
        obtain rfl := Except.ok.inj same
        exact held
  | _ => simp [here] at next

/-- What a send makes of the view. -/
theorem send_watches {delivered : Bool} {u : DaemonStreamUpdate}
    (h : Watches streamId first events view w) (faithful : Faithful first events view)
    (numbered : Numbered streamId 0 events) (next : w.send delivered = some (w', u)) :
    let view' := viewAfter view { sent := some (u, delivered) }
    Watches streamId first events view' w' ∧ Faithful first events view' ∧ Advances view view' := by
  intro view'
  unfold StreamWorker.send at next
  unfold Watches at h
  cases here : w.location with
  | reconnecting | lost =>
    simp only [here, Option.some.injEq, Prod.mk.injEq] at next
    obtain ⟨rfl, rfl⟩ := next
    have same : view' = view := by
      cases delivered <;> rfl
    rw [same]
    exact ⟨trivial, faithful, .refl view⟩
  | announcing snapshot =>
    simp only [here, Option.some.injEq, Prod.mk.injEq] at next h
    obtain ⟨rfl, rfl⟩ := next
    obtain ⟨snapshotted, newer, stream, expects⟩ := h
    cases delivered with
    | false => exact ⟨trivial, faithful, .refl view⟩
    | true =>
      refine ⟨⟨_, rfl, stream, expects⟩, snapshotted.faithful, ?_⟩
      intro replica seen
      exact ⟨_, rfl, newer replica seen⟩
  | forwarding message =>
    simp only [here, Option.some.injEq, Prod.mk.injEq] at next h
    obtain ⟨rfl, rfl⟩ := next
    obtain ⟨replica, rfl, event, among, rfl, following, stream, expects⟩ := h
    have last : (replica.apply event).lastSequence = event.sequence := by
      unfold Replica.apply
      cases event.payload <;> rfl
    cases delivered with
    | false => exact ⟨trivial, faithful, .refl _⟩
    | true =>
      refine ⟨⟨_, rfl, stream, ?_⟩, faithful.apply numbered among following, ?_⟩
      · rw [last]
        exact expects
      · intro before seen
        obtain rfl := Option.some.inj seen
        refine ⟨_, rfl, ?_⟩
        rw [last]
        omega
  | _ => simp [here] at next

/-- A step of the worker: its view stays faithful, and does not go back. -/
theorem Watches.step (h : Watches streamId first events view w)
    (faithful : Faithful first events view) (numbered : Numbered streamId 0 events)
    (step : w.step a = some (w', o))
    (subscribes : ∀ subscription, a = .subscribeReturns (.ok subscription) →
      subscription.streamId = streamId ∧
        Snapshotted streamId first events subscription.initialSnapshot ∧
        Newer view subscription.initialSnapshot)
    (reads : ∀ message, a = .readReturns (.ok message) → ∃ event ∈ events, message = .event event) :
    Watches streamId first events (viewAfter view o) w' ∧
      Faithful first events (viewAfter view o) ∧ Advances view (viewAfter view o) := by
  cases StreamWorker.step_moves step with
  | cancelled => exact ⟨h, faithful, .refl view⟩
  | checked next => exact ⟨check_watches h next, faithful, .refl view⟩
  | clientFound here => exact ⟨trivial, faithful, .refl view⟩
  | clientMissing here =>
    refine ⟨?_, faithful, .refl view⟩
    unfold Watches StreamWorker.disconnect
    split_ifs <;> trivial
  | clientRechecked here present =>
    refine ⟨?_, faithful, .refl view⟩
    unfold Watches at h
    rw [here] at h
    cases present
    · trivial
    · exact h
  | subscribeReturned here result =>
    refine ⟨?_, faithful, .refl view⟩
    cases result with
    | error e => trivial
    | ok subscription => exact subscribes subscription rfl
  | sent delivered next => exact send_watches h faithful numbered next
  | woke here => exact ⟨trivial, faithful, .refl view⟩
  | readReturned here result =>
    refine ⟨?_, faithful, .refl view⟩
    unfold Watches at h
    rw [here] at h
    cases result with
    | error e => exact h
    | ok message => exact ⟨h, reads message rfl⟩
  | healthReturned here ok =>
    refine ⟨?_, faithful, .refl view⟩
    unfold Watches at h
    rw [here] at h
    cases ok
    · trivial
    · exact h

/-- An update of this stream; an event comes behind a snapshot, and is one that a constructor has
built. -/
def Told (streamId : String) (view : Option Replica) : DaemonStreamUpdate → Prop
  | .message (.snapshot snapshot) => snapshot.streamId = streamId
  | .message (.event event) => event.streamId = streamId ∧ view.isSome ∧
    (StreamMessage.event event).Built
  | .reconnecting | .unavailable _ => True

theorem built_of_numbered (numbered : Numbered streamId 0 events) {event : DaemonEvent}
    (among : event ∈ events) : (StreamMessage.event event).Built := by
  obtain ⟨_, n, number, _⟩ := take_of_numbered numbered among
  have version := numbered.version event among
  obtain ⟨protocolVersion, id, sequence, payload⟩ := event
  obtain rfl : protocolVersion = PROTOCOL_VERSION := version
  have positive : sequence ≠ 0 := by
    rintro rfl
    exact absurd number.symm (Nat.succ_ne_zero n)
  exact .event (if_neg positive)

/-- What a worker sends is of its stream. -/
theorem Watches.told (h : Watches streamId first events view w)
    (numbered : Numbered streamId 0 events) (step : w.step a = some (w', o))
    {u : DaemonStreamUpdate} {delivered : Bool} (sent : o.sent = some (u, delivered)) :
    Told streamId view u := by
  cases StreamWorker.step_moves step with
  | sent delivered next =>
    obtain ⟨rfl, rfl⟩ := Prod.mk.inj (Option.some.inj sent)
    unfold StreamWorker.send at next
    unfold Watches at h
    cases here : w.location with
    | reconnecting | lost =>
      simp only [here, Option.some.injEq, Prod.mk.injEq] at next
      obtain ⟨_, rfl⟩ := next
      trivial
    | announcing snapshot =>
      simp only [here, Option.some.injEq, Prod.mk.injEq] at next h
      obtain ⟨_, rfl⟩ := next
      exact h.1.stream
    | forwarding message =>
      simp only [here, Option.some.injEq, Prod.mk.injEq] at next h
      obtain ⟨_, rfl⟩ := next
      obtain ⟨replica, seen, event, among, rfl, _⟩ := h
      refine ⟨numbered.stream event among, ?_, built_of_numbered numbered among⟩
      rw [seen]
      rfl
    | _ => simp [here] at next
  | cancelled | checked | clientFound | clientMissing | clientRechecked | subscribeReturned | woke
  | readReturned | healthReturned => cases sent

end Worker

end Kesharon.EventStream

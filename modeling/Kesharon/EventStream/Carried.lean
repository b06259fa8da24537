import Kesharon.Daemon.Delivery
import Kesharon.Daemon.Replica
import Kesharon.EventStream.Parties
import Kesharon.Protocol.StreamText

namespace Kesharon.EventStream

open Framework Application Daemon Host Ipc Protocol Server

/-- The payload of a value that is written. -/
def payloadOf {α : Type} [Serde α] (v : α) : List UInt8 := utf8 (Serde.serialize v).text

theorem encode_payload {α : Type} [Serde α] {json : SerdeJson α} (lawful : json.Lawful) {v : α}
    {frame : Frame} (encoded : Frame.encode json v = .ok frame) : frame.payload = payloadOf v := by
  unfold Frame.encode at encoded
  rw [lawful.toVec] at encoded
  dsimp only at encoded
  split_ifs at encoded
  rw [← Except.ok.inj encoded]
  rfl

section Session

variable {σ : Type} [StateRepository σ] {streamId : String} {first : Replica} {w w' : World σ}
variable {events : List DaemonEvent} {a : Action} {o : Output}

/-- A session that has emitted these events since it started. -/
structure Emitted (streamId : String) (first : Replica) (events : List DaemonEvent) (w : World σ) :
    Prop where
  healthy : Healthy w
  wiring : w.Wiring
  numbered : Numbered streamId 0 events
  counted : w.state.sequence.toNat = events.length
  replica : w.replica streamId = events.foldl Replica.apply first

omit [StateRepository σ] in
theorem emitted_init (project : Option ProjectSnapshot) (task : Option Domain.Task)
    (repo : Option σ) :
    Emitted streamId ((World.init project task repo).replica streamId) []
      (World.init project task repo) := by
  refine ⟨init_healthy project task repo, ?_, .nil streamId 0, rfl, rfl⟩
  refine ⟨?_, ?_, ?_⟩
  · intro ch
    constructor
    · intro held
      cases held
    · intro live
      exact absurd live.1 (Nat.not_lt_zero ch)
  · intro ch known
    exact absurd known (Nat.not_lt_zero ch)
  · intro ch known
    exact absurd known (Nat.not_lt_zero ch)

theorem Emitted.start (h : Started w) : Emitted streamId (w.replica streamId) [] w := by
  obtain ⟨project, task, repo, rfl⟩ := h.init
  exact emitted_init project task repo

theorem Emitted.step (h : Emitted streamId first events w) (healthy : Healthy w')
    (step : (session σ streamId).step w a = some (w', o)) :
    Emitted streamId first (events ++ o.events) w' := by
  have outcome := step_outcome h.healthy healthy step
  have replica := outcome_replica outcome
  rw [h.replica, ← List.foldl_append] at replica
  have wiring := traffic_wiring h.wiring (outcome_traffic h.healthy outcome)
  rcases outcome_events outcome with ⟨none, same⟩ | ⟨payload, event, one, next, counts⟩
  · rw [none, List.append_nil] at replica ⊢
    exact ⟨healthy, wiring, h.numbered, (congrArg UInt64.toNat same).trans h.counted, replica⟩
  · have number : event.sequence.toNat = 0 + events.length + 1 := by
      rw [next.sequence, h.counted, Nat.zero_add]
    rw [one] at replica ⊢
    refine ⟨healthy, wiring, h.numbered.snoc number next.stream next.version, ?_, replica⟩
    rw [counts, number, List.length_append, List.length_singleton, Nat.zero_add]

/-- A snapshot of the session after so many of its events. -/
structure Snapshotted (streamId : String) (first : Replica) (events : List DaemonEvent)
    (snapshot : WorkspaceSnapshot) : Prop where
  known : snapshot.lastSequence.toNat ≤ events.length
  stream : snapshot.streamId = streamId
  state : Replica.ofSnapshot snapshot =
    (events.take snapshot.lastSequence.toNat).foldl Replica.apply first

theorem Snapshotted.append {snapshot : WorkspaceSnapshot}
    (h : Snapshotted streamId first events snapshot) (more : List DaemonEvent) :
    Snapshotted streamId first (events ++ more) snapshot := by
  refine ⟨?_, h.stream, ?_⟩
  · rw [List.length_append]
    exact Nat.le_add_right_of_le h.known
  · rw [List.take_append_of_le_length h.known]
    exact h.state

omit [StateRepository σ] in
/-- The snapshot of now. -/
theorem Emitted.snapshotted (h : Emitted streamId first events w) :
    Snapshotted streamId first events (w.snapshotLocked streamId) := by
  have last : (w.snapshotLocked streamId).lastSequence.toNat = events.length := h.counted
  refine ⟨Nat.le_of_eq last, rfl, ?_⟩
  rw [last, List.take_length]
  exact h.replica

end Session

section Feeding

variable {streamId : String} {first : Replica} {since : Nat} {events : List DaemonEvent}

/-- What a channel hands out behind a snapshot, and the payloads written of it. The connection began
when there were `since` events. -/
structure Feeds (streamId : String) (first : Replica) (since : Nat) (events : List DaemonEvent)
    (ch : ChannelId) (channel : SyncChannel StreamMessage) (snapshot : WorkspaceSnapshot)
    (payloads : List (List UInt8)) : Prop where
  newer : since ≤ snapshot.lastSequence.toNat
  snapshotted : Snapshotted streamId first events snapshot
  delivered : ∃ requestId tr, emitted tr = events.drop snapshot.lastSequence.toNat ∧
    ChannelStep.Delivered ch tr channel ∧
    payloads = payloadOf (ServerResponse.success requestId (.subscriptionReady streamId)) ::
      payloadOf (StreamMessage.snapshot snapshot) :: (obtained ch tr).map payloadOf

/-- The frames of a subscription as far as they were written, of a refusal, or none. -/
inductive Carried (streamId : String) (first : Replica) (since : Nat) (events : List DaemonEvent)
    (frames : List (List UInt8)) : Prop where
  | nothing (empty : frames = []) : Carried streamId first since events frames
  | refused (requestId : String)
      (only : frames = [payloadOf (ServerResponse.failure requestId .serverBusy
        "The daemon has reached its concurrent connection limit")]) :
      Carried streamId first since events frames
  | subscription (requestId : String) (snapshot : WorkspaceSnapshot) (sent : List DaemonEvent)
      (newer : since ≤ snapshot.lastSequence.toNat)
      (snapshotted : Snapshotted streamId first events snapshot)
      (behind : sent <+: events.drop snapshot.lastSequence.toNat)
      (written : frames <+:
        payloadOf (ServerResponse.success requestId (.subscriptionReady streamId)) ::
          payloadOf (StreamMessage.snapshot snapshot) :: sent.map fun e => payloadOf (StreamMessage.event e)) :
      Carried streamId first since events frames

theorem Carried.append {frames : List (List UInt8)} (h : Carried streamId first since events frames)
    (more : List DaemonEvent) : Carried streamId first since (events ++ more) frames := by
  cases h with
  | nothing empty => exact .nothing empty
  | refused requestId only => exact .refused requestId only
  | subscription requestId snapshot sent newer snapshotted behind written =>
    refine .subscription requestId snapshot sent newer (snapshotted.append more) ?_ written
    rw [List.drop_append_of_le_length snapshotted.known]
    exact behind.trans (List.prefix_append _ _)

variable {ch : ChannelId} {channel channel' : SyncChannel StreamMessage}
variable {snapshot : WorkspaceSnapshot} {payloads frames : List (List UInt8)}

/-- Only a receive obtains a message. -/
theorem received_only_by_recv {a : Action} {o : Output} (h : ChannelStep ch channel a o channel')
    (other : a ≠ .recv ch) (m : StreamMessage) : o.received ≠ some (ch, .message m) := by
  intro received
  cases h with
  | idle _ none => exact none _ received
  | sent _ none | dropped _ none | replaced _ none =>
    rw [none] at received
    cases received
  | got | ended => exact other rfl
  | hungUp => cases received

/-- What has been written of a subscription. -/
theorem Feeds.carried (h : Feeds streamId first since events ch channel snapshot payloads)
    (written : frames <+: payloads) : Carried streamId first since events frames := by
  obtain ⟨newer, snapshotted, requestId, tr, after, ⟨sent, rest, split, handed, _⟩, rfl⟩ := h
  have front : obtained ch tr = (sent.take (obtained ch tr).length).map .event := by
    rw [List.map_take, ← handed, List.take_left]
  refine .subscription requestId snapshot (sent.take (obtained ch tr).length) newer snapshotted
    ?_ ?_
  · rw [← after, split]
    exact (List.take_prefix _ _).trans (List.prefix_append _ _)
  · rw [front, List.map_map] at written
    exact written

/-- A step of the session that leaves the receiver alone. -/
theorem Feeds.idle {a : Action} {o : Output}
    (h : Feeds streamId first since events ch channel snapshot payloads)
    (step : ChannelStep ch channel a o channel')
    (alone : ∀ m, o.received ≠ some (ch, .message m)) :
    Feeds streamId first since (events ++ o.events) ch channel' snapshot payloads := by
  obtain ⟨newer, snapshotted, requestId, tr, after, delivered, rfl⟩ := h
  refine ⟨newer, snapshotted.append _, requestId, tr ++ [(a, o)], ?_, step.delivered delivered, ?_⟩
  · rw [emitted_append, after, List.drop_append_of_le_length snapshotted.known]
    simp
  · rw [obtained_append, obtained_of_none ch a alone, List.append_nil]

/-- The receiver obtains a message. -/
theorem Feeds.got {message : StreamMessage} {o : Output}
    (h : Feeds streamId first since events ch channel snapshot payloads)
    (step : ChannelStep ch channel (.recv ch) o channel') (quiet : o.events = [])
    (received : o.received = some (ch, .message message)) :
    Feeds streamId first since events ch channel' snapshot (payloads ++ [payloadOf message]) := by
  obtain ⟨newer, snapshotted, requestId, tr, after, delivered, rfl⟩ := h
  refine ⟨newer, snapshotted, requestId, tr ++ [(.recv ch, o)], ?_, step.delivered delivered, ?_⟩
  · rw [emitted_append, after, emitted_cons, quiet]
    simp
  · have one : obtained ch [(Action.recv ch, o)] = [message] := by
      simp [obtained, received]
    rw [obtained_append, one, List.map_append]
    rfl

end Feeding

section Serving

variable {σ : Type} [StateRepository σ] {client : DaemonClient} {streamId : String}
variable {first : Replica} {since : Nat} {events : List DaemonEvent} {c c' : Connection σ}
variable {a : ServeAction} {o : Output}

/-- The frames of a connection and what its thread still has to write. -/
def Serves (streamId : String) (first : Replica) (since : Nat) (events : List DaemonEvent)
    (c : Connection σ) : Prop :=
  match c.serving with
  | .absent | .accepted => c.wire.frames = []
  | .writing _ rest (some ch) => ch < c.session.channelCount ∧ ∃ snapshot,
    Feeds streamId first since events ch (c.session.channels ch) snapshot
      (c.wire.frames ++ rest.map Frame.payload)
  | .writing _ rest none => rest = [] ∧ Carried streamId first since events c.wire.frames
  | .receiving ch => ch < c.session.channelCount ∧ ∃ snapshot,
    Feeds streamId first since events ch (c.session.channels ch) snapshot c.wire.frames
  | .returning _ _ | .closing _ | .closed => Carried streamId first since events c.wire.frames

omit [StateRepository σ] in
theorem Serves.carried (h : Serves streamId first since events c) :
    Carried streamId first since events c.wire.frames := by
  unfold Serves at h
  cases here : c.serving with
  | absent | accepted =>
    rw [here] at h
    exact .nothing h
  | writing frame rest channel =>
    rw [here] at h
    cases channel with
    | none => exact h.2
    | some ch =>
      obtain ⟨_, snapshot, feeds⟩ := h
      exact feeds.carried (List.prefix_append _ _)
  | receiving ch =>
    rw [here] at h
    obtain ⟨_, snapshot, feeds⟩ := h
    exact feeds.carried (List.prefix_refl _)
  | returning | closing | closed =>
    rw [here] at h
    exact h

/-- The session moves, and leaves the receiver of the thread alone. -/
theorem Serves.session {w : World σ} {a : Action} (h : Serves streamId first since events c)
    (emitted : Emitted streamId first events c.session) (healthy : Healthy w)
    (step : (Daemon.session σ streamId).step c.session a = some (w, o))
    (alone : ownsReceiver c.serving a = false) :
    Serves streamId first since (events ++ o.events) { c with session := w } := by
  have traffic := outcome_traffic emitted.healthy (step_outcome emitted.healthy healthy step)
  have idle {ch : ChannelId} {snapshot : WorkspaceSnapshot} {payloads : List (List UInt8)}
      (own : c.serving.channel = some ch) (known : ch < c.session.channelCount)
      (feeds : Feeds streamId first since events ch (c.session.channels ch) snapshot payloads) :
      ch < w.channelCount ∧ Feeds streamId first since (events ++ o.events) ch (w.channels ch) snapshot
        payloads := by
    have moved := traffic_channel emitted.wiring known traffic
    refine ⟨Nat.lt_of_lt_of_le known (traffic_count_le traffic), feeds.idle moved ?_⟩
    apply received_only_by_recv moved
    rintro rfl
    simp [ownsReceiver, own] at alone
  unfold Serves at h ⊢
  cases here : c.serving with
  | absent | accepted =>
    rw [here] at h
    exact h
  | writing frame rest channel =>
    rw [here] at h
    cases channel with
    | none => exact ⟨h.1, h.2.append _⟩
    | some ch =>
      obtain ⟨known, snapshot, feeds⟩ := h
      obtain ⟨known', feeds'⟩ := idle (by rw [here]; rfl) known feeds
      exact ⟨known', snapshot, feeds'⟩
  | receiving ch =>
    rw [here] at h
    obtain ⟨known, snapshot, feeds⟩ := h
    obtain ⟨known', feeds'⟩ := idle (by rw [here]; rfl) known feeds
    exact ⟨known', snapshot, feeds'⟩
  | returning | closing | closed =>
    rw [here] at h
    exact h.append _

omit [StateRepository σ] in
/-- The frames that are left are written one by one. -/
theorem Serves.write {ch : ChannelId} {rest : List Frame} {snapshot : WorkspaceSnapshot}
    (known : ch < c.session.channelCount)
    (feeds : Feeds streamId first since events ch (c.session.channels ch) snapshot
      (c.wire.frames ++ rest.map Frame.payload)) :
    Serves streamId first since events (c.write rest (some ch)) := by
  cases rest with
  | nil =>
    rw [List.map_nil, List.append_nil] at feeds
    exact ⟨known, snapshot, feeds⟩
  | cons frame rest =>
    refine ⟨known, snapshot, ?_⟩
    change Feeds streamId first since events ch (c.session.channels ch) snapshot
      (c.wire.frames ++ [frame.payload] ++ rest.map Frame.payload)
    rw [List.append_assoc]
    exact feeds

omit [StateRepository σ] in
theorem write_session (c : Connection σ) (frames : List Frame) (channel : Option ChannelId) :
    (c.write frames channel).session = c.session := by
  unfold Connection.write
  cases frames <;> cases channel <;> rfl

omit [StateRepository σ] in
theorem subscribe_session (responses : SerdeJson ServerResponse)
    (messages : SerdeJson StreamMessage) (requestId : String) (c : Connection σ) :
    (c.subscribe responses messages streamId requestId).1.session =
      (c.session.subscribe streamId).1 := by
  unfold Connection.subscribe
  dsimp only
  split
  · split
    · exact write_session _ _ _
    · rfl
  · rfl

omit [StateRepository σ] in
theorem deliver_session (messages : SerdeJson StreamMessage) (ch : ChannelId) (c : Connection σ)
    (received : Received StreamMessage) : (c.deliver messages ch received).session = c.session := by
  unfold Connection.deliver
  cases received with
  | disconnected => rfl
  | message m =>
    dsimp only
    split
    · exact write_session _ _ _
    · rfl

/-- The handshake: the snapshot is that of now, and the channel is new. -/
theorem Serves.subscribe (responses : client.responses.Lawful) (messages : client.messages.Lawful)
    (requestId : String) (empty : c.wire.frames = []) (began : since ≤ events.length)
    (emitted : Emitted streamId first events c.session)
    (healthy : Healthy (c.session.subscribe streamId).1) :
    Serves streamId first since
        (events ++ (c.subscribe client.responses client.messages streamId requestId).2.events)
        (c.subscribe client.responses client.messages streamId requestId).1 ∧
      Emitted streamId first
        (events ++ (c.subscribe client.responses client.messages streamId requestId).2.events)
        (c.subscribe client.responses client.messages streamId requestId).1.session := by
  have step : (Daemon.session σ streamId).step c.session .subscribe =
      some ((c.session.subscribe streamId).1, (c.session.subscribe streamId).2) := rfl
  have moved := emitted.step healthy step
  have lock : ¬ c.session.statePoisoned = true := by simp [emitted.healthy.state_lock]
  have quiet : (c.session.subscribe streamId).2.events = [] :=
    (subscribe_frame streamId c.session).choose_spec.choose_spec.choose_spec.2
  have answer : (c.session.subscribe streamId).2.subscribed =
      some (.ok (c.session.snapshotLocked streamId, c.session.channelCount)) := by
    unfold World.subscribe
    rw [if_neg lock]
  obtain ⟨_, count, fresh, _⟩ := outcome_subscribed emitted.healthy
    (step_outcome emitted.healthy healthy step) answer
  rw [quiet, List.append_nil] at moved
  have nothing : Carried streamId first since events c.wire.frames := .nothing empty
  rw [subscribe_session]
  unfold Connection.subscribe
  dsimp only
  rw [answer]
  dsimp only
  split
  · rename_i ready snapshot encoded encoded'
    dsimp only
    rw [quiet, List.append_nil]
    have last : (c.session.snapshotLocked streamId).lastSequence.toNat = events.length :=
      emitted.counted
    have known : c.session.channelCount < (c.session.subscribe streamId).1.channelCount := by
      rw [count]
      exact Nat.lt_succ_self _
    have feeds : Feeds streamId first since events c.session.channelCount
        ((c.session.subscribe streamId).1.channels c.session.channelCount)
        (c.session.snapshotLocked streamId)
        (c.wire.frames ++ [ready,snapshot].map Frame.payload) := by
      refine ⟨last ▸ began, emitted.snapshotted, requestId, [], ?_,
        ⟨[], [], rfl, ?_, fun _ => rfl⟩, ?_⟩
      · rw [last, List.drop_length]
        rfl
      · rw [fresh]
        rfl
      · change c.wire.frames ++ [ready.payload,snapshot.payload] = _
        rw [empty, encode_payload responses encoded, encode_payload messages encoded']
        rfl
    exact ⟨Serves.write (c := { c with session := (c.session.subscribe streamId).1 }) known feeds,
      moved⟩
  · dsimp only
    rw [quiet, List.append_nil]
    exact ⟨nothing, moved⟩

omit [StateRepository σ] in
/-- A refusal is one frame. -/
theorem Serves.rejectBusy (responses : client.responses.Lawful) (requestId : String)
    (empty : c.wire.frames = []) :
    Serves streamId first since events (c.rejectBusy client.responses requestId) ∧
      (c.rejectBusy client.responses requestId).session = c.session := by
  unfold Connection.rejectBusy
  split
  · rename_i frame encoded
    refine ⟨⟨rfl, .refused requestId ?_⟩, rfl⟩
    change c.wire.frames ++ [frame.payload] = _
    rw [empty, encode_payload responses encoded]
    rfl
  · exact ⟨.nothing empty, rfl⟩

omit [StateRepository σ] in
/-- What the receiver obtains is written, or the subscription ends. -/
theorem Serves.deliver (messages : client.messages.Lawful) {ch : ChannelId}
    {channel : SyncChannel StreamMessage} {snapshot : WorkspaceSnapshot}
    {received : Received StreamMessage}
    (known : ch < c.session.channelCount)
    (feeds : Feeds streamId first since events ch channel snapshot c.wire.frames)
    (step : ChannelStep ch channel (.recv ch) { received := some (ch, received) }
      (c.session.channels ch)) :
    Serves streamId first since events (c.deliver client.messages ch received) := by
  have ended : Carried streamId first since events c.wire.frames := feeds.carried (List.prefix_refl _)
  unfold Connection.deliver
  cases received with
  | disconnected => exact ended
  | message m =>
    have more := feeds.got step rfl rfl
    dsimp only
    split
    · rename_i frame encoded
      have written : Feeds streamId first since events ch (c.session.channels ch) snapshot
          (c.wire.frames ++ [frame].map Frame.payload) := by
        rw [List.map_singleton, encode_payload messages encoded]
        exact more
      exact Serves.write known written
    · exact ended

/-- A step of the thread. -/
theorem Serves.serve (responses : client.responses.Lawful) (messages : client.messages.Lawful)
    (h : Serves streamId first since events c) (began : since ≤ events.length)
    (emitted : Emitted streamId first events c.session) (healthy : Healthy c'.session)
    (step : c.step client.responses client.messages streamId a = some (c', o)) :
    Serves streamId first since (events ++ o.events) c' ∧
      Emitted streamId first (events ++ o.events) c'.session := by
  have carried := h.carried
  have still (e : o = {}) (same : c'.session = c.session)
      (serves : Serves streamId first since events c') :
      Serves streamId first since (events ++ o.events) c' ∧
        Emitted streamId first (events ++ o.events) c'.session := by
    rw [e, same]
    simpa using ⟨serves, emitted⟩
  unfold Connection.step at step
  unfold Serves at h
  cases here : c.serving with
  | absent => cases a <;> simp [here] at step
  | closed => cases a <;> simp [here] at step
  | accepted =>
    rw [here] at h
    cases a with
    | subscribe requestId =>
      simp only [here, Option.some.injEq] at step
      have moved : (c.subscribe client.responses client.messages streamId requestId).1.session =
          (c.session.subscribe streamId).1 := subscribe_session _ _ requestId c
      rw [step] at moved
      rw [moved] at healthy
      have both := Serves.subscribe responses messages requestId h began emitted healthy
      rw [step] at both
      exact both
    | rejectBusy requestId =>
      simp only [here, Option.some.injEq, Prod.mk.injEq] at step
      obtain ⟨rfl, rfl⟩ := step
      obtain ⟨serves, same⟩ := @Serves.rejectBusy σ client streamId first since events c
        responses requestId h
      exact still rfl same serves
    | giveUp =>
      simp only [here, Option.some.injEq, Prod.mk.injEq] at step
      obtain ⟨rfl, rfl⟩ := step
      exact still rfl rfl carried
    | _ => simp [here] at step
  | writing frame rest channel =>
    rw [here] at h
    cases a with
    | wrote =>
      simp only [here, Option.some.injEq, Prod.mk.injEq] at step
      obtain ⟨rfl, rfl⟩ := step
      cases channel with
      | none =>
        obtain ⟨rfl, carries⟩ := h
        exact still rfl rfl carries
      | some ch =>
        obtain ⟨known, snapshot, feeds⟩ := h
        exact still rfl (write_session c rest (some ch)) (Serves.write known feeds)
    | writeFails unsent =>
      simp only [here, Option.some.injEq, Prod.mk.injEq] at step
      obtain ⟨rfl, rfl⟩ := step
      exact still rfl rfl carried
    | _ => simp [here] at step
  | receiving ch =>
    rw [here] at h
    cases a with
    | recv =>
      obtain ⟨known, snapshot, feeds⟩ := h
      simp only [here] at step
      cases got : c.session.step streamId (.recv ch) with
      | none => simp [got] at step
      | some r =>
        obtain ⟨w, out⟩ := r
        simp only [got, Option.map_eq_some_iff, Prod.mk.injEq] at step
        obtain ⟨received, obtains, rfl, rfl⟩ := step
        rw [deliver_session] at healthy ⊢
        have got : (Daemon.session σ streamId).step c.session (.recv ch) = some (w, out) := got
        have moved := emitted.step healthy got
        have outcome := step_outcome emitted.healthy healthy got
        have traffic := outcome_traffic emitted.healthy outcome
        have channel := traffic_channel emitted.wiring known traffic
        have quiet : out.events = [] ∧ out = { received := some (ch, received.2) } := by
          cases outcome with
          | received ch r c known alive recv =>
            obtain rfl := Option.some.inj obtains
            exact ⟨rfl, rfl⟩
          | moved _ _ _ _ _ moves => cases moves
        rw [quiet.1, List.append_nil] at moved ⊢
        rw [quiet.2] at channel
        refine ⟨Serves.deliver messages (c := { c with session := w }) ?_ feeds channel, moved⟩
        exact Nat.lt_of_lt_of_le known (traffic_count_le traffic)
    | _ => simp [here] at step
  | returning channel written =>
    cases a with
    | dropReceiver =>
      cases channel with
      | none =>
        simp only [here, Option.some.injEq, Prod.mk.injEq] at step
        obtain ⟨rfl, rfl⟩ := step
        exact still rfl rfl carried
      | some ch =>
        simp only [here, Option.map_eq_some_iff, Prod.exists, Prod.mk.injEq] at step
        obtain ⟨w, out, hung, rfl, rfl⟩ := step
        have hung : (Daemon.session σ streamId).step c.session (.hangUp ch) = some (w, out) := hung
        exact ⟨carried.append _, emitted.step healthy hung⟩
    | _ => simp [here] at step
  | closing written =>
    cases a with
    | dropStream =>
      simp only [here, Option.some.injEq, Prod.mk.injEq] at step
      obtain ⟨rfl, rfl⟩ := step
      exact still rfl rfl carried
    | _ => simp [here] at step

end Serving

end Kesharon.EventStream

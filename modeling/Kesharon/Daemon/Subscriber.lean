import Kesharon.Daemon.CallEffects
import Kesharon.Daemon.Delivery

namespace Kesharon.Daemon

open Framework Domain Protocol Application

namespace World

variable {σ : Type}

/-- The subscription is the same one, or has been dropped. -/
def Keeps (w w' : World σ) : Prop :=
  w'.state.subscriber = w.state.subscriber ∨ w'.state.subscriber = none

/-- The channels stay as they are, or an event is delivered. -/
inductive Delivers (w w' : World σ) : List DaemonEvent → Prop where
  | still (subscriber : w'.state.subscriber = w.state.subscriber) (channels : w'.channels = w.channels)
      (count : w'.channelCount = w.channelCount) : Delivers w w' []
  | event (e : DaemonEvent) (emission : Emission w w' e)
      (count : w'.channelCount = w.channelCount) : Delivers w w' [e]

/-- Only the subscriber and the channels matter. -/
theorem Delivers.of_same {w v v' w' : World σ} {es : List DaemonEvent} (h : Delivers v v' es)
    (subscriber : v.state.subscriber = w.state.subscriber) (channels : v.channels = w.channels)
    (count : v.channelCount = w.channelCount) (subscriber' : w'.state.subscriber = v'.state.subscriber)
    (channels' : w'.channels = v'.channels) (count' : w'.channelCount = v'.channelCount) :
    Delivers w w' es := by
  cases h with
  | still same kept known =>
    exact .still (subscriber'.trans (same.trans subscriber)) (channels'.trans (kept.trans channels))
      (count'.trans (known.trans count))
  | event e emission known =>
    refine .event e ?_ (count'.trans (known.trans count))
    cases emission with
    | unheard nobody none kept =>
      exact .unheard (subscriber ▸ nobody) (subscriber'.trans none)
        (channels'.trans (kept.trans channels))
    | sent ch held still receiving room sent =>
      rw [channels] at receiving room sent
      exact .sent ch (subscriber ▸ held) (subscriber'.trans still) receiving room
        (channels'.trans sent)
    | dropped ch held none why dropped =>
      rw [channels] at why dropped
      exact .dropped ch (subscriber ▸ held) (subscriber'.trans none) why (channels'.trans dropped)

theorem emitLocked_delivers {streamId : String} {w w' : World σ} {payload : DaemonEventPayload}
    {event : DaemonEvent} (h : w.emitLocked streamId payload = .ok (w', event)) :
    Delivers w w' [event] := by
  unfold emitLocked at h
  cases hc : checkedSucc w.state.sequence with
  | none => simp [hc] at h
  | some sequence =>
    simp only [hc, DaemonEvent.new] at h
    split_ifs at h with hz
    obtain ⟨rfl, rfl⟩ := Prod.mk.inj (Except.ok.inj h)
    let event : DaemonEvent := ⟨PROTOCOL_VERSION,streamId,sequence,payload⟩
    have count : (w.emit event).channelCount = w.channelCount := by
      obtain ⟨_, _, frame⟩ := w.emit_frame event
      rw [frame]
    exact .event event (w.emit_emission event) count

theorem emitAndRespond_delivers {streamId : String} {w : World σ} {requestId : String}
    {payload : DaemonEventPayload} {after : World σ → World σ} {response : ServerResponse}
    (project : ∀ v, ∃ project, after v = { v with state := { v.state with project := project } }) :
    Delivers w (w.emitAndRespond streamId requestId payload after response).world
      (w.emitAndRespond streamId requestId payload after response).events := by
  unfold emitAndRespond
  cases he : w.emitLocked streamId payload with
  | error e => exact .still rfl rfl rfl
  | ok p =>
    obtain ⟨q, same⟩ := project p.1
    have delivers := emitLocked_delivers he
    dsimp only
    rw [same]
    exact delivers.of_same rfl rfl rfl rfl rfl rfl

theorem settle_delivers [StateRepository σ] (streamId : String) (w : World σ) (requestId : String)
    (result : Except ApplicationError Project) :
    Delivers w (w.settle streamId requestId result).1.world
      (w.settle streamId requestId result).1.events := by
  have how := settle_settles streamId w requestId result
  generalize (w.settle streamId requestId result).1 = settled at how ⊢
  cases how with
  | locked => exact .still rfl rfl rfl
  | @emitted repo response payload after verdict project =>
    have delivers := @emitAndRespond_delivers _ streamId (w.setRepository repo) requestId payload
      after response project
    exact delivers.of_same rfl rfl rfl rfl rfl rfl

theorem beginOpen_delivers (streamId : String) (w : World σ) (request : ClientRequest)
    (path : String) :
    Delivers w (w.beginOpen streamId request path).1 (w.beginOpen streamId request path).2.events ∧
      (w.beginOpen streamId request path).2.received = none := by
  have refused (response : ServerResponse) :
      Delivers w (w.answer response).1 (w.answer response).2.events ∧
        (w.answer response).2.received = none :=
    ⟨.still rfl rfl rfl, rfl⟩
  unfold beginOpen
  cases request.idempotencyKey with
  | none => exact refused _
  | some key =>
    dsimp only
    by_cases hp : w.statePoisoned = true
    · rw [if_pos hp]
      exact refused _
    · rw [if_neg hp]
      cases w.state.admit key (.openProject path) request.requestId with
      | some response => exact refused _
      | none =>
        dsimp only
        by_cases running : request.requestId ∈ w.state.active
        · rw [if_pos running]
          exact refused _
        · rw [if_neg running]
          cases he : (w.register request.requestId path key).emitLocked streamId
              (.operationStarted request.requestId .openProject) with
          | error e => exact ⟨.still rfl rfl rfl, rfl⟩
          | ok p => exact ⟨(emitLocked_delivers he).of_same rfl rfl rfl rfl rfl rfl, rfl⟩

theorem finishOpen_delivers [StateRepository σ] (streamId : String) (w : World σ) (flag : FlagId)
    (call : OpenCall) (result : Except ApplicationError Project) :
    Delivers w (w.finishOpen streamId flag call result).1
        (w.finishOpen streamId flag call result).2.events ∧
      (w.finishOpen streamId flag call result).2.received = none := by
  unfold finishOpen
  split_ifs
  · exact ⟨.still rfl rfl rfl, rfl⟩
  · have settled := settle_delivers streamId (w.remove flag call) call.request.requestId result
    exact ⟨settled.of_same rfl rfl rfl rfl rfl rfl, rfl⟩

theorem cancel_delivers (w : World σ) (request : ClientRequest) (target : String) :
    Delivers w (w.cancel request target).1 (w.cancel request target).2.events ∧
      (w.cancel request target).2.received = none := by
  unfold cancel
  cases request.idempotencyKey with
  | none => exact ⟨.still rfl rfl rfl, rfl⟩
  | some key =>
    dsimp only
    split_ifs
    · exact ⟨.still rfl rfl rfl, rfl⟩
    · cases w.state.admit key (.cancelRequest target) request.requestId with
      | some response => exact ⟨.still rfl rfl rfl, rfl⟩
      | none => exact ⟨.still rfl rfl rfl, rfl⟩

theorem Delivers.traffic {w w' : World σ} {a : Action} {o : Output} (h : Delivers w w' o.events)
    (unread : o.received = none) : Traffic w w' a o := by
  generalize he : o.events = es at h
  cases h with
  | still subscriber channels count => exact .quiet he unread subscriber channels count
  | event e emission count => exact .emitted he unread emission count

theorem subscribe_poisoned (streamId : String) {w : World σ} (lock : w.statePoisoned = true) :
    w.subscribe streamId = (w, { subscribed := some (.error .stateUnavailable) }) := by
  unfold subscribe
  rw [if_pos lock]

theorem subscribe_result (streamId : String) {w : World σ} (lock : w.statePoisoned = false) :
    (w.subscribe streamId).2 =
      { subscribed := some (.ok (w.snapshotLocked streamId, w.channelCount)) } := by
  unfold subscribe
  rw [if_neg (by simp [lock])]

theorem subscribe_subscriber (streamId : String) {w : World σ} (lock : w.statePoisoned = false) :
    (w.subscribe streamId).1.state.subscriber = some w.channelCount := by
  unfold subscribe
  rw [if_neg (by simp [lock])]

theorem subscribe_fresh (streamId : String) {w : World σ} (lock : w.statePoisoned = false) :
    (w.subscribe streamId).1.channelCount = w.channelCount + 1 ∧
      (w.subscribe streamId).1.channels w.channelCount = .new SUBSCRIBER_CAPACITY := by
  unfold subscribe
  rw [if_neg (by simp [lock])]
  exact ⟨rfl, Function.update_self ..⟩

/-- What a step does to the channels, healthy or not. -/
theorem step_traffic [StateRepository σ] {streamId : String} {w w' : World σ} {a : Action}
    {o : Output} (hs : w.step streamId a = some (w', o)) : Traffic w w' a o := by
  cases step_stepped hs with
  | subscribed =>
    cases lock : w.statePoisoned with
    | true =>
      rw [subscribe_poisoned streamId lock]
      exact .quiet rfl rfl rfl rfl rfl
    | false =>
      unfold subscribe
      rw [if_neg (by simp [lock])]
      exact .subscribed rfl rfl rfl rfl rfl rfl
  | received ch r c known alive recv => exact .received known recv rfl rfl rfl
  | hungUp ch known => exact .hungUp known rfl rfl rfl
  | dispatched request =>
    unfold dispatch
    cases request.method with
    | health | subscribeEvents => exact .quiet rfl rfl rfl rfl rfl
    | openProject path =>
      obtain ⟨delivers, unread⟩ := beginOpen_delivers streamId w request path
      exact delivers.traffic unread
    | cancelRequest target =>
      obtain ⟨delivers, unread⟩ := cancel_delivers w request target
      exact delivers.traffic unread
  | finished flag call result running returned =>
    obtain ⟨delivers, unread⟩ := finishOpen_delivers streamId w flag call result
    exact delivers.traffic unread
  | moved _ flag call execution running moves => exact .quiet rfl rfl rfl rfl rfl
  | statePoisoned => exact .quiet rfl rfl rfl rfl rfl
  | repositoryPoisoned => exact .quiet rfl rfl rfl rfl rfl

/-- Only `subscribe` gives the session another subscriber. -/
theorem step_keeps [StateRepository σ] {streamId : String} {w w' : World σ} {a : Action}
    {o : Output} (hs : w.step streamId a = some (w', o)) (other : a ≠ .subscribe) :
    Keeps w w' := by
  cases step_traffic hs with
  | subscribed => exact absurd rfl other
  | quiet events received subscriber => exact .inl subscriber
  | received known recv subscriber => exact .inl subscriber
  | hungUp known subscriber => exact .inl subscriber
  | emitted events received emission =>
    cases emission with
    | unheard nobody none => exact .inr none
    | sent ch held subscriber => exact .inl (subscriber.trans held.symm)
    | dropped ch held none => exact .inr none

/-- A channel that is the subscriber takes each event and stays the subscriber, unless its
receiver has hung up or its buffer is full. -/
def Hears [StateRepository σ] (streamId : String) (w : World σ) (ch : ChannelId) : Prop :=
  ∀ a w' o, w.step streamId a = some (w', o) → a ≠ .subscribe → Healthy w → Healthy w' →
    w.state.subscriber = some ch →
    (w'.state.subscriber = some ch ∧
      ∀ e ∈ o.events, (w'.channels ch).buffer = (w.channels ch).buffer ++ [.event e]) ∨
    (w.channels ch).receiverAlive = false ∨
      (w.channels ch).capacity ≤ (w.channels ch).buffer.length

theorem hears [StateRepository σ] (streamId : String) (w : World σ) (ch : ChannelId) :
    Hears streamId w ch := by
  intro a w' o hs other healthy healthy' here
  cases outcome_traffic healthy (step_outcome healthy healthy' hs) with
  | subscribed => exact absurd rfl other
  | quiet events received subscriber =>
    exact .inl ⟨subscriber.trans here, by simp [events]⟩
  | received known recv subscriber => exact .inl ⟨subscriber.trans here, nofun⟩
  | hungUp known subscriber => exact .inl ⟨subscriber.trans here, nofun⟩
  | emitted events received emission =>
    cases emission with
    | unheard nobody => simp [nobody] at here
    | sent c held subscriber receiving room channels =>
      obtain rfl : c = ch := Option.some.inj (held.symm.trans here)
      refine .inl ⟨subscriber, ?_⟩
      intro e he
      rw [events, List.mem_singleton] at he
      rw [he, channels, Function.update_self]
    | dropped c held subscriber why channels =>
      obtain rfl : c = ch := Option.some.inj (held.symm.trans here)
      exact .inr why

end World

end Kesharon.Daemon

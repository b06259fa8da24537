import Kesharon.Daemon.Events

namespace Kesharon.Daemon

open Framework Domain Protocol Application

/-- The messages a trace hands to the receiver of a channel. -/
def obtained (ch : ChannelId) (tr : List (Action × Output)) : List StreamMessage :=
  tr.filterMap fun p =>
    match p.2.received with
    | some (c, .message m) => if c = ch then some m else none
    | _ => none

theorem obtained_append (ch : ChannelId) (xs ys : List (Action × Output)) :
    obtained ch (xs ++ ys) = obtained ch xs ++ obtained ch ys := by
  simp [obtained]

theorem obtained_of_none (ch : ChannelId) (a : Action) {o : Output}
    (h : ∀ m, o.received ≠ some (ch, .message m)) : obtained ch [(a, o)] = [] := by
  cases hr : o.received with
  | none => simp [obtained, hr]
  | some p =>
    obtain ⟨c, r⟩ := p
    cases r with
    | disconnected => simp [obtained, hr]
    | message m =>
      have hne : c ≠ ch := by
        intro he
        exact h m (he ▸ hr)
      simp [obtained, hr, hne]

namespace World

variable {σ : Type}

/-- The session still holds the sender of a channel. -/
def Live (w : World σ) (ch : ChannelId) : Prop :=
  ch < w.channelCount ∧ (w.channels ch).senderAlive = true

/-- What an event does to the channels. -/
inductive Emission (w w' : World σ) (event : DaemonEvent) : Prop where
  | unheard (nobody : w.state.subscriber = none) (subscriber : w'.state.subscriber = none)
      (channels : w'.channels = w.channels)
  | sent (ch : ChannelId) (held : w.state.subscriber = some ch)
      (subscriber : w'.state.subscriber = some ch)
      (receiving : (w.channels ch).receiverAlive = true)
      (room : (w.channels ch).buffer.length < (w.channels ch).capacity)
      (channels : w'.channels = Function.update w.channels ch
        { w.channels ch with buffer := (w.channels ch).buffer ++ [.event event] })
  | dropped (ch : ChannelId) (held : w.state.subscriber = some ch)
      (subscriber : w'.state.subscriber = none)
      (why : (w.channels ch).receiverAlive = false ∨
        (w.channels ch).capacity ≤ (w.channels ch).buffer.length)
      (channels : w'.channels = Function.update w.channels ch (w.channels ch).dropSender)

theorem emit_emission (w : World σ) (event : DaemonEvent) : Emission w (w.emit event) event := by
  unfold emit deliver
  cases hs : w.state.subscriber with
  | none => exact .unheard hs hs rfl
  | some ch =>
    dsimp only
    cases ht : (w.channels ch).trySend (.event event) with
    | ok c =>
      obtain ⟨receiving, room, rfl⟩ := SyncChannel.trySend_ok ht
      exact .sent ch hs hs receiving room rfl
    | error e => exact .dropped ch hs rfl (SyncChannel.trySend_error ht) rfl

theorem begun_emission (w : World σ) (request : ClientRequest) (path key : String)
    (event : DaemonEvent) : Emission w (w.begun request path key event) event ∧
      (w.begun request path key event).channelCount = w.channelCount := by
  constructor
  · cases (w.register request.requestId path key).emit_emission event with
    | unheard nobody subscriber channels => exact .unheard nobody subscriber channels
    | sent ch held subscriber receiving room channels =>
      exact .sent ch held subscriber receiving room channels
    | dropped ch held subscriber why channels => exact .dropped ch held subscriber why channels
  · obtain ⟨sub, chans, he⟩ := (w.register request.requestId path key).emit_frame event
    unfold begun
    rw [he]
    rfl

theorem finished_emission (w : World σ) (flag : FlagId) (call : OpenCall) (repo : Option σ)
    (project : Option ProjectSnapshot) (event : DaemonEvent) (completion : Completion) :
    Emission w (w.finished flag call repo project event completion) event ∧
      (w.finished flag call repo project event completion).channelCount = w.channelCount := by
  constructor
  · cases ((w.remove flag call).setRepository repo).emit_emission event with
    | unheard nobody subscriber channels => exact .unheard nobody subscriber channels
    | sent ch held subscriber receiving room channels =>
      exact .sent ch held subscriber receiving room channels
    | dropped ch held subscriber why channels => exact .dropped ch held subscriber why channels
  · obtain ⟨sub, chans, he⟩ := ((w.remove flag call).setRepository repo).emit_frame event
    unfold finished settled
    rw [he]
    rfl

/-- The sender that `subscribe` replaces is dropped. -/
def replaced (w : World σ) : ChannelId → SyncChannel StreamMessage :=
  match w.state.subscriber with
  | none => w.channels
  | some old => Function.update w.channels old (w.channels old).dropSender

/-- What a step does to the channels. -/
inductive Traffic (w w' : World σ) : Action → Output → Prop where
  | quiet {a : Action} {o : Output} (events : o.events = []) (received : o.received = none)
      (subscriber : w'.state.subscriber = w.state.subscriber)
      (channels : w'.channels = w.channels) (count : w'.channelCount = w.channelCount) :
      Traffic w w' a o
  | emitted {a : Action} {o : Output} {e : DaemonEvent} (events : o.events = [e])
      (received : o.received = none) (emission : Emission w w' e)
      (count : w'.channelCount = w.channelCount) : Traffic w w' a o
  | subscribed {o : Output} {s : WorkspaceSnapshot} (events : o.events = [])
      (received : o.received = none) (result : o.subscribed = some (.ok (s, w.channelCount)))
      (subscriber : w'.state.subscriber = some w.channelCount)
      (channels : w'.channels =
        Function.update w.replaced w.channelCount (.new SUBSCRIBER_CAPACITY))
      (count : w'.channelCount = w.channelCount + 1) : Traffic w w' .subscribe o
  | received {ch : ChannelId} {r : Received StreamMessage} {c : SyncChannel StreamMessage}
      (known : ch < w.channelCount) (recv : (w.channels ch).recv = some (r, c))
      (subscriber : w'.state.subscriber = w.state.subscriber)
      (channels : w'.channels = Function.update w.channels ch c)
      (count : w'.channelCount = w.channelCount) :
      Traffic w w' (.recv ch) { received := some (ch, r) }
  | hungUp {ch : ChannelId} (known : ch < w.channelCount)
      (subscriber : w'.state.subscriber = w.state.subscriber)
      (channels : w'.channels = Function.update w.channels ch (w.channels ch).dropReceiver)
      (count : w'.channelCount = w.channelCount) : Traffic w w' (.hangUp ch) {}

/-- The channels of a world: its subscriber is its only live one, and none holds more than 64
messages. -/
structure Wiring (w : World σ) : Prop where
  subscriber_iff : ∀ ch, w.state.subscriber = some ch ↔ w.Live ch
  capacity : ∀ ch < w.channelCount, (w.channels ch).capacity = SUBSCRIBER_CAPACITY
  bounded : ∀ ch < w.channelCount, (w.channels ch).buffer.length ≤ SUBSCRIBER_CAPACITY

theorem Wiring.unique {w : World σ} (h : Wiring w) {c d : ChannelId} (hc : w.Live c)
    (hd : w.Live d) : c = d :=
  Option.some.inj (((h.subscriber_iff c).mpr hc).symm.trans ((h.subscriber_iff d).mpr hd))

end World

/-- What a step does to one channel of the session. -/
inductive ChannelStep (ch : ChannelId) (c : SyncChannel StreamMessage) :
    Action → Output → SyncChannel StreamMessage → Prop where
  | idle {a : Action} {o : Output} (deaf : o.events = [] ∨ c.senderAlive = false)
      (received : ∀ r, o.received ≠ some (ch, r)) : ChannelStep ch c a o c
  | sent {a : Action} {o : Output} {e : DaemonEvent} (events : o.events = [e])
      (received : o.received = none) (live : c.senderAlive = true)
      (receiving : c.receiverAlive = true) (room : c.buffer.length < c.capacity) :
      ChannelStep ch c a o { c with buffer := c.buffer ++ [.event e] }
  | dropped {a : Action} {o : Output} {e : DaemonEvent} (events : o.events = [e])
      (received : o.received = none) (live : c.senderAlive = true)
      (why : c.receiverAlive = false ∨ c.capacity ≤ c.buffer.length) :
      ChannelStep ch c a o c.dropSender
  | replaced {o : Output} (events : o.events = []) (received : o.received = none)
      (live : c.senderAlive = true) : ChannelStep ch c .subscribe o c.dropSender
  | got {m : StreamMessage} {rest : List StreamMessage} (buffer : c.buffer = m :: rest) :
      ChannelStep ch c (.recv ch) { received := some (ch, .message m) }
        { c with buffer := rest }
  | ended (buffer : c.buffer = []) (dead : c.senderAlive = false) :
      ChannelStep ch c (.recv ch) { received := some (ch, .disconnected) } c
  | hungUp : ChannelStep ch c (.hangUp ch) {} c.dropReceiver

section Steps

variable {σ : Type} [StateRepository σ] {streamId : String} {w w' : World σ}

theorem outcome_traffic {a : Action} {o : Output} (h : Healthy w)
    (hs : Outcome streamId w a w' o) : World.Traffic w w' a o := by
  cases hs with
  | answered request response => exact .quiet rfl rfl rfl rfl rfl
  | begun request path key event =>
    obtain ⟨emission, count⟩ := w.begun_emission request path key event
    exact .emitted rfl rfl emission count
  | cancelled request target key completion => exact .quiet rfl rfl rfl rfl rfl
  | moved _ flag call execution running moves => exact .quiet rfl rfl rfl rfl rfl
  | finished flag call result repo project payload event response saved completion =>
    obtain ⟨emission, count⟩ := w.finished_emission flag call repo project event completion
    exact .emitted rfl rfl emission count
  | subscribed =>
    have lock : ¬ w.statePoisoned = true := by simp [h.state_lock]
    unfold World.subscribe
    rw [if_neg lock]
    exact .subscribed rfl rfl rfl rfl rfl rfl
  | received ch r c known alive recv => exact .received known recv rfl rfl rfl
  | hungUp ch known => exact .hungUp known rfl rfl rfl

omit [StateRepository σ] in
theorem traffic_channel {a : Action} {o : Output} {ch : ChannelId} (wiring : w.Wiring)
    (known : ch < w.channelCount) (ht : World.Traffic w w' a o) :
    ChannelStep ch (w.channels ch) a o (w'.channels ch) := by
  have silent (hn : w.state.subscriber ≠ some ch) : (w.channels ch).senderAlive = false := by
    by_contra hl
    exact hn ((wiring.subscriber_iff ch).mpr ⟨known, by simpa using hl⟩)
  have held {c : ChannelId} (hc : w.state.subscriber = some c) :
      (w.channels c).senderAlive = true := ((wiring.subscriber_iff c).mp hc).2
  cases ht with
  | quiet events received subscriber channels count =>
    rw [channels]
    exact .idle (.inl events) (by simp [received])
  | emitted events received emission count =>
    cases emission with
    | unheard nobody subscriber channels =>
      rw [channels]
      exact .idle (.inr (silent (by simp [nobody]))) (by simp [received])
    | sent c hc subscriber receiving room channels =>
      rw [channels]
      by_cases he : ch = c
      · subst c
        rw [Function.update_self]
        exact .sent events received (held hc) receiving room
      · rw [Function.update_of_ne he]
        exact .idle (.inr (silent (by simp [hc, Ne.symm he]))) (by simp [received])
    | dropped c hc subscriber why channels =>
      rw [channels]
      by_cases he : ch = c
      · subst c
        rw [Function.update_self]
        exact .dropped events received (held hc) why
      · rw [Function.update_of_ne he]
        exact .idle (.inr (silent (by simp [hc, Ne.symm he]))) (by simp [received])
  | subscribed events received result subscriber channels count =>
    rw [channels, Function.update_of_ne (Nat.ne_of_lt known)]
    unfold World.replaced
    cases hs : w.state.subscriber with
    | none => exact .idle (.inl events) (by simp [received])
    | some old =>
      dsimp only
      by_cases he : ch = old
      · subst old
        rw [Function.update_self]
        exact .replaced events received (held hs)
      · rw [Function.update_of_ne he]
        exact .idle (.inl events) (by simp [received])
  | @received c r c' known' recv subscriber channels count =>
    rw [channels]
    by_cases he : ch = c
    · subst c
      rw [Function.update_self]
      rcases SyncChannel.recv_some recv with ⟨m, rfl, hb, hc⟩ | ⟨rfl, hb, dead, rfl⟩
      · rw [hc]
        exact .got hb
      · exact .ended hb dead
    · rw [Function.update_of_ne he]
      exact .idle (.inl rfl) (by simp [Ne.symm he])
  | @hungUp c known' subscriber channels count =>
    rw [channels]
    by_cases he : ch = c
    · subst c
      rw [Function.update_self]
      exact .hungUp
    · rw [Function.update_of_ne he]
      exact .idle (.inl rfl) (by simp)

/-- A subscription gets a new channel and the number of the last event. -/
theorem outcome_subscribed {a : Action} {o : Output} {s : WorkspaceSnapshot} {ch : ChannelId}
    (h : Healthy w) (hs : Outcome streamId w a w' o) (ho : o.subscribed = some (.ok (s, ch))) :
    ch = w.channelCount ∧ w'.channelCount = ch + 1 ∧ w'.channels ch = .new SUBSCRIBER_CAPACITY ∧
      s.lastSequence = w'.state.sequence ∧ ∀ r, o.received ≠ some (ch, r) := by
  cases hs with
  | subscribed =>
    have lock : ¬ w.statePoisoned = true := by simp [h.state_lock]
    unfold World.subscribe at ho ⊢
    rw [if_neg lock] at ho ⊢
    simp only [Option.some.injEq, Except.ok.injEq, Prod.mk.injEq] at ho
    obtain ⟨rfl, rfl⟩ := ho
    exact ⟨rfl, rfl, Function.update_self _ _ _, rfl, by simp⟩
  | answered => simp at ho
  | begun => simp at ho
  | cancelled => simp at ho
  | moved => simp at ho
  | finished => simp at ho
  | received => simp at ho
  | hungUp => simp at ho

omit [StateRepository σ] in
theorem traffic_count {a : Action} {o : Output} {ch : ChannelId} (ht : World.Traffic w w' a o)
    (known : ch < w'.channelCount) :
    ch < w.channelCount ∨ ch = w.channelCount ∧ w'.channels ch = .new SUBSCRIBER_CAPACITY := by
  cases ht with
  | quiet _ _ _ _ count => exact .inl (count ▸ known)
  | emitted _ _ _ count => exact .inl (count ▸ known)
  | received _ _ _ _ count => exact .inl (count ▸ known)
  | hungUp _ _ _ count => exact .inl (count ▸ known)
  | subscribed _ _ _ _ channels count =>
    rw [count] at known
    rcases Nat.lt_succ_iff_lt_or_eq.mp known with hlt | rfl
    · exact .inl hlt
    · exact .inr ⟨rfl, by rw [channels, Function.update_self]⟩

omit [StateRepository σ] in
theorem traffic_count_le {a : Action} {o : Output} (ht : World.Traffic w w' a o) :
    w.channelCount ≤ w'.channelCount := by
  cases ht with
  | quiet _ _ _ _ count => exact Nat.le_of_eq count.symm
  | emitted _ _ _ count => exact Nat.le_of_eq count.symm
  | received _ _ _ _ count => exact Nat.le_of_eq count.symm
  | hungUp _ _ _ count => exact Nat.le_of_eq count.symm
  | subscribed _ _ _ _ _ count => exact Nat.le_of_lt (by rw [count]; exact Nat.lt_succ_self _)

omit [StateRepository σ] in
/-- Same subscriber and same senders: the subscriber is still the live channel. -/
theorem subscriber_iff_of_same (wiring : w.Wiring)
    (subscriber : w'.state.subscriber = w.state.subscriber)
    (count : w'.channelCount = w.channelCount)
    (senders : ∀ c, (w'.channels c).senderAlive = (w.channels c).senderAlive) (c : ChannelId) :
    w'.state.subscriber = some c ↔ w'.Live c := by
  rw [subscriber, wiring.subscriber_iff]
  unfold World.Live
  rw [count, senders]

omit [StateRepository σ] in
theorem traffic_subscriber {a : Action} {o : Output} (wiring : w.Wiring)
    (ht : World.Traffic w w' a o) (c : ChannelId) :
    w'.state.subscriber = some c ↔ w'.Live c := by
  have update_same {ch : ChannelId} {d : SyncChannel StreamMessage}
      (hd : d.senderAlive = (w.channels ch).senderAlive) (c : ChannelId) :
      (Function.update w.channels ch d c).senderAlive = (w.channels c).senderAlive := by
    by_cases he : c = ch
    · subst c
      rw [Function.update_self, hd]
    · rw [Function.update_of_ne he]
  cases ht with
  | quiet events received subscriber channels count =>
    exact subscriber_iff_of_same wiring subscriber count (fun c => by rw [channels]) c
  | emitted events received emission count =>
    cases emission with
    | unheard nobody subscriber channels =>
      exact subscriber_iff_of_same wiring (subscriber.trans nobody.symm) count
        (fun c => by rw [channels]) c
    | sent ch held subscriber receiving room channels =>
      refine subscriber_iff_of_same wiring (subscriber.trans held.symm) count (fun c => ?_) c
      rw [channels]
      apply update_same
      rfl
    | dropped ch held subscriber why channels =>
      rw [subscriber]
      refine ⟨nofun, ?_⟩
      intro hlive
      unfold World.Live at hlive
      rw [channels, count] at hlive
      by_cases he : c = ch
      · subst c
        rw [Function.update_self] at hlive
        exact absurd hlive.2 (by simp [SyncChannel.dropSender])
      · rw [Function.update_of_ne he] at hlive
        exact absurd (wiring.unique hlive ((wiring.subscriber_iff ch).mp held)) he
  | subscribed events received result subscriber channels count =>
    rw [subscriber]
    unfold World.Live
    rw [channels, count]
    by_cases he : c = w.channelCount
    · subst c
      rw [Function.update_self]
      exact ⟨fun _ => ⟨Nat.lt_succ_self _, rfl⟩, fun _ => rfl⟩
    · rw [Function.update_of_ne he]
      refine ⟨fun hc => absurd (Option.some.inj hc).symm he, ?_⟩
      intro hlive
      have known : c < w.channelCount := Nat.lt_of_le_of_ne (Nat.lt_succ_iff.mp hlive.1) he
      obtain ⟨_, alive⟩ := hlive
      unfold World.replaced at alive
      cases hs : w.state.subscriber with
      | none =>
        rw [hs] at alive
        rw [(wiring.subscriber_iff c).mpr ⟨known, alive⟩] at hs
        exact absurd hs (by simp)
      | some old =>
        rw [hs] at alive
        dsimp only at alive
        by_cases hold : c = old
        · subst c
          rw [Function.update_self] at alive
          exact absurd alive (by simp [SyncChannel.dropSender])
        · rw [Function.update_of_ne hold] at alive
          exact absurd (wiring.unique ⟨known, alive⟩ ((wiring.subscriber_iff old).mp hs)) hold
  | received known recv subscriber channels count =>
    refine subscriber_iff_of_same wiring subscriber count (fun c => ?_) c
    rw [channels]
    apply update_same
    rcases SyncChannel.recv_some recv with ⟨m, _, _, hc⟩ | ⟨_, _, _, hc⟩ <;> rw [hc]
  | hungUp known subscriber channels count =>
    refine subscriber_iff_of_same wiring subscriber count (fun c => ?_) c
    rw [channels]
    apply update_same
    rfl

end Steps

namespace ChannelStep

variable {ch : ChannelId} {c c' : SyncChannel StreamMessage} {a : Action} {o : Output}

theorem capacity_eq (h : ChannelStep ch c a o c') : c'.capacity = c.capacity := by
  cases h <;> rfl

theorem bounded (h : ChannelStep ch c a o c') (hb : c.buffer.length ≤ c.capacity) :
    c'.buffer.length ≤ c'.capacity := by
  cases h with
  | sent events received live receiving room =>
    rw [List.length_append]
    exact room
  | got buffer =>
    rw [buffer] at hb
    exact Nat.le_of_succ_le hb
  | idle => exact hb
  | dropped => exact hb
  | replaced => exact hb
  | ended => exact hb
  | hungUp => exact hb

/-- Only its own hang-up closes a receiver. -/
theorem receiverAlive_eq (h : ChannelStep ch c a o c') (closed : c'.receiverAlive = false) :
    c.receiverAlive = false ∨ a = .hangUp ch := by
  cases h with
  | hungUp => exact .inr rfl
  | idle => exact .inl closed
  | sent => exact .inl closed
  | dropped => exact .inl closed
  | replaced => exact .inl closed
  | got => exact .inl closed
  | ended => exact .inl closed

/-- A channel the session has let go stays let go, and only its receiver changes it. -/
theorem dead (h : ChannelStep ch c a o c') (hd : c.senderAlive = false) :
    c'.senderAlive = false ∧ obtained ch [(a, o)] ++ c'.buffer = c.buffer := by
  cases h with
  | idle deaf received =>
    rw [obtained_of_none ch a (fun m => received _)]
    exact ⟨hd, rfl⟩
  | sent events received live => exact absurd live (by simp [hd])
  | dropped events received live => exact absurd live (by simp [hd])
  | replaced events received live => exact absurd live (by simp [hd])
  | got buffer => exact ⟨hd, by simp [obtained, buffer]⟩
  | ended buffer dead =>
    rw [obtained_of_none ch _ (by simp)]
    exact ⟨hd, rfl⟩
  | hungUp =>
    rw [obtained_of_none ch _ (by simp)]
    exact ⟨hd, rfl⟩

/-- Since a subscription began: what its receiver obtained and what waits in its channel are the
first of the events, and all of them while the session holds the sender. -/
def Delivered (ch : ChannelId) (tr : List (Action × Output)) (c : SyncChannel StreamMessage) :
    Prop :=
  ∃ sent rest, emitted tr = sent ++ rest ∧ obtained ch tr ++ c.buffer = sent.map .event ∧
    (c.senderAlive = true → rest = [])

theorem delivered {tr : List (Action × Output)} (h : ChannelStep ch c a o c')
    (hd : Delivered ch tr c) : Delivered ch (tr ++ [(a, o)]) c' := by
  obtain ⟨sent, rest, hevents, hsent, hlive⟩ := hd
  unfold Delivered
  simp only [emitted_append, emitted_cons, emitted_nil, List.append_nil, obtained_append]
  cases h with
  | idle deaf received =>
    rw [obtained_of_none ch a (fun m => received _), List.append_nil]
    refine ⟨sent, rest ++ o.events, by rw [hevents, List.append_assoc], hsent, ?_⟩
    intro alive
    rcases deaf with silent | dead
    · rw [hlive alive, silent, List.nil_append]
    · exact absurd alive (by simp [dead])
  | @sent _ _ e events received live receiving room =>
    rw [obtained_of_none ch a (by simp [received]), List.append_nil]
    refine ⟨sent ++ [e], [], ?_, ?_, fun _ => rfl⟩
    · rw [hevents, hlive live, events]
      simp
    · rw [← List.append_assoc, hsent]
      simp
  | dropped events received live why =>
    rw [obtained_of_none ch a (by simp [received]), List.append_nil]
    refine ⟨sent, rest ++ o.events, by rw [hevents, List.append_assoc], hsent, ?_⟩
    intro alive
    exact absurd alive (by simp [SyncChannel.dropSender])
  | replaced events received live =>
    rw [obtained_of_none ch _ (by simp [received]), List.append_nil, events, List.append_nil]
    exact ⟨sent, rest, hevents, hsent, fun _ => hlive live⟩
  | @got m more buffer =>
    refine ⟨sent, rest, by simpa using hevents, ?_, hlive⟩
    rw [← hsent, buffer]
    simp [obtained]
  | ended buffer dead =>
    rw [obtained_of_none ch _ (by simp)]
    exact ⟨sent, rest, by simpa using hevents, by simpa using hsent, hlive⟩
  | hungUp =>
    rw [obtained_of_none ch _ (by simp), List.append_nil (obtained ch tr)]
    exact ⟨sent, rest, by simpa using hevents, hsent, hlive⟩

end ChannelStep

section Runs

variable {σ : Type} [StateRepository σ] {streamId : String} {w₀ w w' : World σ}

omit [StateRepository σ] in
theorem traffic_wiring {a : Action} {o : Output} (wiring : w.Wiring)
    (ht : World.Traffic w w' a o) : w'.Wiring := by
  refine ⟨traffic_subscriber wiring ht, ?_, ?_⟩
  · intro ch known
    rcases traffic_count ht known with old | ⟨_, fresh⟩
    · rw [(traffic_channel wiring old ht).capacity_eq, wiring.capacity ch old]
    · rw [fresh]
      rfl
  · intro ch known
    rcases traffic_count ht known with old | ⟨_, fresh⟩
    · have step := traffic_channel wiring old ht
      have fits := step.bounded (by rw [wiring.capacity ch old]; exact wiring.bounded ch old)
      rwa [step.capacity_eq, wiring.capacity ch old] at fits
    · rw [fresh]
      exact Nat.zero_le _

/-- A receiver of the session that is closed has hung up. -/
def HungUp (tr : List (Action × Output)) (w : World σ) : Prop :=
  ∀ ch < w.channelCount, (w.channels ch).receiverAlive = false → ∃ o, (.hangUp ch, o) ∈ tr

theorem run_wiring {tr : List (Action × Output)} (start : Started w₀)
    (run : (session σ streamId).Run healthyStep w₀ tr w) :
    Healthy w ∧ w.Wiring ∧ HungUp tr w := by
  apply run.history (P := fun tr w => Healthy w ∧ w.Wiring ∧ HungUp tr w)
  · refine ⟨start.healthy, ?_, ?_⟩
    · obtain ⟨project, task, repo, rfl⟩ := start.init
      refine ⟨fun ch => ⟨nofun, ?_⟩, nofun, nofun⟩
      intro live
      exact absurd live.1 (Nat.not_lt_zero ch)
    · obtain ⟨project, task, repo, rfl⟩ := start.init
      exact nofun
  · intro tr t a u o h hok hs
    obtain ⟨hh, hw, hup⟩ := h
    have ht := outcome_traffic hh (step_outcome hh hok hs)
    refine ⟨hok, traffic_wiring hw ht, ?_⟩
    intro ch known closed
    rcases traffic_count ht known with old | ⟨_, fresh⟩
    · rcases (traffic_channel hw old ht).receiverAlive_eq closed with before | rfl
      · obtain ⟨p, hp⟩ := hup ch old before
        exact ⟨p, List.mem_append_left _ hp⟩
      · exact ⟨o, by simp⟩
    · rw [fresh] at closed
      exact absurd closed (by simp [SyncChannel.new])

/-- From the step that subscribes on, the channel delivers. -/
theorem run_delivered {t : World σ} {tr : List (Action × Output)} {ch : ChannelId}
    (run : (session σ streamId).Run healthyStep t tr w) (healthy : Healthy t) (wiring : t.Wiring)
    (known : ch < t.channelCount) (fresh : t.channels ch = .new SUBSCRIBER_CAPACITY) :
    ChannelStep.Delivered ch tr (w.channels ch) := by
  have both : Healthy w ∧ w.Wiring ∧ ch < w.channelCount ∧
      ChannelStep.Delivered ch tr (w.channels ch) := by
    apply run.history (P := fun tr w => Healthy w ∧ w.Wiring ∧ ch < w.channelCount ∧
      ChannelStep.Delivered ch tr (w.channels ch))
    · refine ⟨healthy, wiring, known, [], [], rfl, ?_, fun _ => rfl⟩
      rw [fresh]
      rfl
    · intro tr u a v o h hok hs
      obtain ⟨hh, hw, hk, hd⟩ := h
      have ht := outcome_traffic hh (step_outcome hh hok hs)
      exact ⟨hok, traffic_wiring hw ht, Nat.lt_of_lt_of_le hk (traffic_count_le ht),
        (traffic_channel hw hk ht).delivered hd⟩
  exact both.2.2.2

/-- Nothing is obtained from a channel that does not exist yet. -/
theorem run_obtained_nil {tr : List (Action × Output)} (start : Started w₀)
    (run : (session σ streamId).Run healthyStep w₀ tr w) (ch : ChannelId)
    (unknown : w.channelCount ≤ ch) : obtained ch tr = [] := by
  have both : Healthy w ∧ (w.channelCount ≤ ch → obtained ch tr = []) := by
    apply run.history (P := fun tr w => Healthy w ∧ (w.channelCount ≤ ch → obtained ch tr = []))
    · exact ⟨start.healthy, fun _ => rfl⟩
    · intro tr t a u o h hok hs
      obtain ⟨hh, hn⟩ := h
      have ht := outcome_traffic hh (step_outcome hh hok hs)
      refine ⟨hok, fun hle => ?_⟩
      have hle' : t.channelCount ≤ ch := Nat.le_trans (traffic_count_le ht) hle
      rw [obtained_append, hn hle', List.nil_append]
      apply obtained_of_none
      intro m hm
      cases ht with
      | quiet events received => exact absurd hm (by simp [received])
      | emitted events received => exact absurd hm (by simp [received])
      | subscribed events received => exact absurd hm (by simp [received])
      | hungUp => exact absurd hm (by simp)
      | @received c r c' known =>
        simp only [Option.some.injEq, Prod.mk.injEq] at hm
        exact absurd known (Nat.not_lt.mpr (hm.1 ▸ hle'))
  exact both.2 unknown

/-- As long as its receiver stays, a dropped channel hands out what it holds and then reports
the disconnect. -/
def Drains (streamId : String) (w : World σ) (ch : ChannelId) (unread : List StreamMessage) :
    Prop :=
  ∀ tr u, (session σ streamId).Run healthyStep w tr u → (∀ o, (.hangUp ch, o) ∉ tr) →
    obtained ch tr ++ (u.channels ch).buffer = unread ∧ ¬ u.Live ch ∧
      ∃ v, (session σ streamId).step u (.recv ch) =
        some (v, { received := some (ch, (u.channels ch).next) })

theorem drains_of_dropped (streamId : String) {ch : ChannelId} (healthy : Healthy w) (wiring : w.Wiring)
    (known : ch < w.channelCount) (dead : (w.channels ch).senderAlive = false)
    (receiving : (w.channels ch).receiverAlive = true) :
    Drains streamId w ch (w.channels ch).buffer := by
  intro tr u run stays
  have kept : Healthy u ∧ u.Wiring ∧ ch < u.channelCount ∧ (u.channels ch).senderAlive = false ∧
      obtained ch tr ++ (u.channels ch).buffer = (w.channels ch).buffer ∧
      ((∀ o, (.hangUp ch, o) ∉ tr) → (u.channels ch).receiverAlive = true) := by
    apply run.history (P := fun tr u => Healthy u ∧ u.Wiring ∧ ch < u.channelCount ∧
      (u.channels ch).senderAlive = false ∧
      obtained ch tr ++ (u.channels ch).buffer = (w.channels ch).buffer ∧
      ((∀ o, (.hangUp ch, o) ∉ tr) → (u.channels ch).receiverAlive = true))
    · exact ⟨healthy, wiring, known, dead, rfl, fun _ => receiving⟩
    · intro tr t a u o h hok hs
      obtain ⟨hh, hw, hk, hd, hb, hr⟩ := h
      have ht := outcome_traffic hh (step_outcome hh hok hs)
      have step := traffic_channel hw hk ht
      obtain ⟨hd', hb'⟩ := step.dead hd
      refine ⟨hok, traffic_wiring hw ht, Nat.lt_of_lt_of_le hk (traffic_count_le ht), hd', ?_, ?_⟩
      · rw [obtained_append, List.append_assoc, hb', hb]
      · intro never
        by_contra closed
        rcases step.receiverAlive_eq (by simpa using closed) with before | rfl
        · have open' := hr (fun p hp => never p (List.mem_append_left _ hp))
          exact absurd open' (by simp [before])
        · exact never o (by simp)
  obtain ⟨_, _, hk, hd, hb, hr⟩ := kept
  refine ⟨hb, fun live => absurd live.2 (by simp [hd]), ?_⟩
  obtain ⟨c, hc⟩ := SyncChannel.recv_of_dropped hd
  refine ⟨{ u with channels := Function.update u.channels ch c }, ?_⟩
  change u.step streamId (.recv ch) = _
  unfold World.step
  dsimp only
  rw [if_pos ⟨hk, hr stays⟩, hc]
  rfl

/-- How a live subscription ends: it is replaced, or an event meets a receiver that has hung up
or a buffer with 64 unread messages, which then still drains. -/
theorem live_ends {tr : List (Action × Output)} {a : Action} {o : Output} {ch : ChannelId}
    (wiring : w.Wiring) (closed : HungUp tr w) (live : w.Live ch)
    (ht : World.Traffic w w' a o) (healthy' : Healthy w') (gone : ¬ w'.Live ch) :
    a = .subscribe ∨ (∃ e, o.events = [e]) ∧ ((∃ p, (.hangUp ch, p) ∈ tr) ∨
      (w.channels ch).buffer.length = SUBSCRIBER_CAPACITY ∧
        Drains streamId w' ch (w.channels ch).buffer) := by
  have known' : ch < w'.channelCount := Nat.lt_of_lt_of_le live.1 (traffic_count_le ht)
  have dead : (w'.channels ch).senderAlive ≠ true := fun alive => gone ⟨known', alive⟩
  have step := traffic_channel wiring live.1 ht
  generalize hc : w'.channels ch = c at step dead
  cases step with
  | idle => exact absurd live.2 dead
  | sent => exact absurd live.2 dead
  | got => exact absurd live.2 dead
  | ended => exact absurd live.2 dead
  | hungUp => exact absurd live.2 dead
  | replaced => exact .inl rfl
  | dropped events received alive why =>
    refine .inr ⟨⟨_, events⟩, ?_⟩
    cases hr : (w.channels ch).receiverAlive with
    | false => exact .inl (closed ch live.1 hr)
    | true =>
      have full : (w.channels ch).capacity ≤ (w.channels ch).buffer.length := by
        simpa [hr] using why
      rw [wiring.capacity ch live.1] at full
      have drains := drains_of_dropped streamId healthy' (traffic_wiring wiring ht)
        known' (by rw [hc]; rfl) (by rw [hc]; exact hr)
      rw [hc] at drains
      exact .inr ⟨Nat.le_antisymm (wiring.bounded ch live.1) full, drains⟩

/-- Delivery to subscribers: a receiver obtains the events after its snapshot one by one; one
subscription is live at a time; it ends only by being replaced, by its own hang-up or by its own
overflow, which still drains; and no hang-up ends one by itself. -/
theorem subscriber_delivery {tr : List (Action × Output)} (start : Started w₀)
    (run : (session σ streamId).Run healthyStep w₀ tr w) :
    (∀ i a o s ch, tr[i]? = some (a, o) → o.subscribed = some (.ok (s, ch)) →
      ∃ es, obtained ch tr = es.map .event ∧ es <+: emitted (tr.drop (i + 1)) ∧
        Numbered streamId s.lastSequence.toNat es ∧
        (w.Live ch → obtained ch tr ++ (w.channels ch).buffer =
          (emitted (tr.drop (i + 1))).map .event)) ∧
      (∀ c d, w.Live c → w.Live d → c = d) ∧
      (∀ ch a w' o, w.Live ch → (session σ streamId).step w a = some (w', o) → Healthy w' →
        ¬ w'.Live ch → a = .subscribe ∨ (∃ e, o.events = [e]) ∧
          ((∃ p, (.hangUp ch, p) ∈ tr) ∨ (w.channels ch).buffer.length = 64 ∧
            Drains streamId w' ch (w.channels ch).buffer)) ∧
      ∀ ch c w' o, w.Live ch → (session σ streamId).step w (.hangUp c) = some (w', o) →
        w'.Live ch := by
  obtain ⟨healthy, wiring, closed⟩ := run_wiring start run
  have ends : ∀ ch a w' o, w.Live ch → (session σ streamId).step w a = some (w', o) →
      Healthy w' → ¬ w'.Live ch → a = .subscribe ∨ (∃ e, o.events = [e]) ∧
        ((∃ p, (.hangUp ch, p) ∈ tr) ∨ (w.channels ch).buffer.length = 64 ∧
          Drains streamId w' ch (w.channels ch).buffer) := by
    intro ch a w' o live hs healthy' gone
    exact live_ends wiring closed live
      (outcome_traffic healthy (step_outcome healthy healthy' hs)) healthy' gone
  refine ⟨?_, fun c d => wiring.unique, ends, ?_⟩
  · intro i a o s ch hi ho
    obtain ⟨xs, ys, t, t', rfl, hlen, before, hok, hs, after⟩ := run.at_index hi
    obtain ⟨hh, hw, _⟩ := run_wiring start before
    have outcome := step_outcome hh hok hs
    have ht := outcome_traffic hh outcome
    obtain ⟨rfl, hcount, fresh, hsq, silent⟩ := outcome_subscribed hh outcome ho
    have known : t.channelCount < t'.channelCount := by
      rw [hcount]
      exact Nat.lt_succ_self _
    obtain ⟨sent, rest, hevents, hsent, hlive⟩ :=
      run_delivered after hok (traffic_wiring hw ht) known fresh
    have nothing : obtained t.channelCount (xs ++ [(a, o)]) = [] := by
      rw [obtained_append, run_obtained_nil start before _ (Nat.le_refl _), List.nil_append]
      exact obtained_of_none _ a (fun m => silent _)
    have hdrop : (xs ++ (a, o) :: ys).drop (i + 1) = ys := by
      rw [← hlen]
      simp
    have hobtained : obtained t.channelCount (xs ++ (a, o) :: ys) = obtained t.channelCount ys := by
      have cut : xs ++ (a, o) :: ys = xs ++ [(a, o)] ++ ys := by simp
      rw [cut, obtained_append, nothing, List.nil_append]
    rw [hdrop, hobtained]
    have numbered := (run_numbered after hok).1
    rw [← hsq, hevents] at numbered
    have first : obtained t.channelCount ys =
        (sent.take (obtained t.channelCount ys).length).map .event := by
      rw [List.map_take, ← hsent, List.take_left]
    refine ⟨_, first, ?_, ?_, ?_⟩
    · rw [hevents]
      exact (List.take_prefix _ _).trans (List.prefix_append _ _)
    · exact numbered.of_prefix ((List.take_prefix _ _).trans (List.prefix_append _ _))
    · intro live
      rw [hsent, hevents, hlive live.2, List.append_nil]
  · intro ch c w' o live hs
    by_contra gone
    change (if c < w.channelCount then _ else none) = _ at hs
    split_ifs at hs
    obtain ⟨rfl, rfl⟩ := Prod.mk.inj (Option.some.inj hs)
    rcases ends ch (.hangUp c) _ _ live (if_pos ‹_›)
      ⟨healthy.state_lock, healthy.repository_lock, healthy.sequence_lt⟩ gone with ha | ⟨⟨e, he⟩, _⟩
    · exact absurd ha (by simp)
    · exact absurd he (by simp)

end Runs

/-- A subscriber obtains the first event after its snapshot and is then replaced. -/
theorem subscriber_delivery_first_event :
    ∃ tr w es, (session Empty "s").Run healthyStep World.new tr w ∧
      obtained 0 tr = es.map .event ∧ Numbered "s" 0 es ∧ es.length = 1 ∧ w.Live 1 ∧
      ¬ w.Live 0 := by
  have run := Machine.run_of_exec_isSome (session Empty "s") healthyStep World.new [
    .subscribe,
    .dispatch ⟨PROTOCOL_VERSION,"a",.openProject "/p",some "k"⟩,
    .recv 0,
    .subscribe] (by decide)
  obtain ⟨delivered, unique, _⟩ := subscriber_delivery .new run
  obtain ⟨es, hobtained, _, numbered, _⟩ := delivered 0 .subscribe _ ⟨"s",0,none,[]⟩ 0 rfl rfl
  refine ⟨_, _, es, run, hobtained, numbered, ?length, ?live,
    fun replaced => absurd (unique 0 1 replaced ?live) (by decide)⟩
  case live => exact ⟨by decide, by decide⟩
  case length =>
    have hlength := congrArg List.length hobtained
    rw [List.length_map] at hlength
    exact hlength.symm

end Kesharon.Daemon

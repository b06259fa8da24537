import Kesharon.Protocol.Codec
import Kesharon.Server.Permits

namespace Kesharon.Server

open Framework Application Kesharon.Daemon Ipc Protocol

/-- The messages that the receiver of a channel takes over a trace. -/
def taken (ch : ChannelId) (tr : List (PoolAction × PoolOutput)) : List StreamMessage :=
  obtained ch (tr.map fun p => (.recv ch, p.2.session))

theorem taken_concat (ch : ChannelId) (tr : List (PoolAction × PoolOutput)) (a : PoolAction)
    (o : PoolOutput) :
    taken ch (tr ++ [(a, o)]) = taken ch tr ++ obtained ch [(.recv ch, o.session)] := by
  unfold taken
  rw [List.map_append, obtained_append]
  rfl

namespace Pool

variable {σ : Type}

/-- A worker's thread has the receiver of a channel. -/
def Attached (s : Pool σ) (j : Nat) (ch : ChannelId) : Prop :=
  ∃ w, s.workers[j]? = some w ∧ w.serving.channel = some ch

/-- A worker waits for its sender. -/
def Waiting (s : Pool σ) (j : Nat) : Prop :=
  ∃ w ch, s.workers[j]? = some w ∧ w.serving = .receiving ch ∧
    (s.session.channels ch).recv = none

/-- Every thread that has a receiver has its own. -/
structure Piped (s : Pool σ) : Prop where
  wiring : s.session.Wiring
  receiver : ∀ j ch, s.Attached j ch →
    ch < s.session.channelCount ∧ (s.session.channels ch).receiverAlive = true
  distinct : ∀ i j ch, s.Attached i ch → s.Attached j ch → i = j

/-- A step in the session after which the threads keep their receivers, without the one that is
dropped, and at most worker `j` has a new one. -/
structure Rewired (s s' : Pool σ) (a : Action) (o : Output) (j : Nat) : Prop where
  traffic : World.Traffic s.session s'.session a o
  attached : ∀ i ch, s'.Attached i ch → (s.Attached i ch ∧ a ≠ .hangUp ch) ∨
    (i = j ∧ ch = s.session.channelCount ∧ ch < s'.session.channelCount ∧
      (s'.session.channels ch).receiverAlive = true)

variable {s s' : Pool σ} {a : PoolAction} {o : PoolOutput} {streamId : String}

theorem attached_set {j i : Nat} {v : Worker} {ch : ChannelId}
    (same : s'.workers = s.workers.set j v) (h : s'.Attached i ch) :
    (i ≠ j ∧ s.Attached i ch) ∨ (i = j ∧ v.serving.channel = some ch) := by
  obtain ⟨w, here, held⟩ := h
  rw [same, List.getElem?_set] at here
  split_ifs at here with this known
  · obtain rfl := Option.some.inj here
    exact .inr ⟨this.symm, held⟩
  · exact .inl ⟨fun equal => this equal.symm, w, here, held⟩

theorem attached_of_workers {i : Nat} {ch : ChannelId} (same : s'.workers = s.workers)
    (h : s'.Attached i ch) : s.Attached i ch := by
  obtain ⟨w, here, held⟩ := h
  rw [same] at here
  exact ⟨w, here, held⟩

theorem Piped.rewired {b : Action} {p : Output} {j : Nat} (h : Piped s)
    (r : Rewired s s' b p j) : Piped s' := by
  refine ⟨traffic_wiring h.wiring r.traffic, ?_, ?_⟩
  · intro i ch held
    rcases r.attached i ch held with ⟨old, stays⟩ | ⟨_, _, fresh⟩
    · obtain ⟨known, alive⟩ := h.receiver i ch old
      refine ⟨Nat.lt_of_lt_of_le known (traffic_count_le r.traffic), ?_⟩
      by_contra closed
      have step := traffic_channel h.wiring known r.traffic
      rcases step.receiverAlive_eq (by simpa using closed) with before | hangs
      · rw [alive] at before
        cases before
      · exact stays hangs
    · exact fresh
  · intro i k ch held held'
    rcases r.attached i ch held with ⟨old, _⟩ | ⟨here, fresh, _⟩ <;>
      rcases r.attached k ch held' with ⟨old', _⟩ | ⟨here', fresh', _⟩
    · exact h.distinct i k ch old old'
    · exact absurd fresh' (Nat.ne_of_lt (h.receiver i ch old).1)
    · exact absurd fresh (Nat.ne_of_lt (h.receiver k ch old').1)
    · exact here.trans here'.symm

/-- A step of a worker's thread is one of the session. -/
theorem served_rewired [StateRepository σ] {j : Nat} {w : Worker} {c : Connection σ} {p : Output}
    (h : Piped s) (here : s.workers[j]? = some w) (thread : (s.connection w).Thread streamId c p) :
    ∃ b, Rewired s (s.served j w c) b p j := by
  have attached {i : Nat} {ch : ChannelId} (held : (s.served j w c).Attached i ch) :=
    @attached_set σ s (s.served j w c) j i { w with serving := c.serving, wire := c.wire } ch rfl held
  have own {ch : ChannelId} (held : w.serving.channel = some ch) : s.Attached j ch :=
    ⟨w, here, held⟩
  cases thread with
  | still session channel silent frames =>
    refine ⟨.poisonState, ?_, ?_⟩
    · exact .quiet silent.1 silent.2 (congrArg (fun v => v.state.subscriber) session)
        (congrArg World.channels session) (congrArg World.channelCount session)
    · intro i ch held
      rcases attached held with ⟨_, old⟩ | ⟨rfl, old⟩
      · exact .inl ⟨old, by simp⟩
      · exact .inl ⟨own (channel.symm.trans old), by simp⟩
  | subscribed accepted lock session channel output =>
    refine ⟨.subscribe, ?_, ?_⟩
    · have step : s.session.step streamId .subscribe = some (c.session, p) := by
        rw [session, output]
        rfl
      exact World.step_traffic step
    · intro i ch held
      rcases attached held with ⟨_, old⟩ | ⟨same, fresh⟩
      · exact .inl ⟨old, by simp⟩
      · obtain rfl : s.session.channelCount = ch := Option.some.inj (channel.symm.trans fresh)
        obtain ⟨count, new⟩ := World.subscribe_fresh streamId lock
        have known : c.session.channelCount = s.session.channelCount + 1 := by
          rw [session]
          exact count
        have receiver : c.session.channels s.session.channelCount = .new SUBSCRIBER_CAPACITY := by
          rw [session]
          exact new
        refine .inr ⟨same, rfl, ?_, ?_⟩
        · change s.session.channelCount < c.session.channelCount
          omega
        · change (c.session.channels s.session.channelCount).receiverAlive = true
          rw [receiver]
          rfl
  | received ch r buffer waiting recv session channel output frames =>
    have known := (h.receiver j ch (own (by rw [show w.serving = _ from waiting]; rfl))).1
    refine ⟨.recv ch, ?_, ?_⟩
    · have count := congrArg World.channelCount session
      rw [output]
      exact .received known recv (congrArg (fun v => v.state.subscriber) session)
        (congrArg World.channels session) count
    · intro i c' held
      rcases attached held with ⟨_, old⟩ | ⟨rfl, old⟩
      · exact .inl ⟨old, by simp⟩
      · obtain rfl : ch = c' := Option.some.inj (channel.symm.trans old)
        exact .inl ⟨own (by rw [show w.serving = _ from waiting]; rfl), by simp⟩
  | hungUp ch mine session channel output frames =>
    have known := (h.receiver j ch (own mine)).1
    refine ⟨.hangUp ch, ?_, ?_⟩
    · have count := congrArg World.channelCount session
      rw [output]
      exact .hungUp known (congrArg (fun v => v.state.subscriber) session)
        (congrArg World.channels session) count
    · intro i c' held
      rcases attached held with ⟨other, old⟩ | ⟨_, old⟩
      · refine .inl ⟨old, ?_⟩
        intro same
        obtain rfl : ch = c' := by simpa using same
        exact other (h.distinct i j ch old (own mine))
      · cases channel.symm.trans old

/-- The same session, and no receiver that was not there. -/
theorem rewired_of_same {j : Nat} (session : s'.session = s.session)
    (attached : ∀ i ch, s'.Attached i ch → s.Attached i ch) :
    Rewired s s' .poisonState {} j := by
  refine ⟨?_, fun i ch held => .inl ⟨attached i ch held, by simp⟩⟩
  rw [session]
  exact .quiet rfl rfl rfl rfl rfl

theorem moves_rewired [StateRepository σ] (h : Piped s) (moves : Moves streamId s a s' o) :
    ∃ b j, Rewired s s' b o.session j := by
  cases moves with
  | accepts | fails | acquires | spawnFails | dropsUnspawned =>
    exact ⟨_, 0, rewired_of_same rfl fun i ch => attached_of_workers rfl⟩
  | sees other here =>
    refine ⟨.poisonState, 0, ?_⟩
    unfold update
    split_ifs <;> exact rewired_of_same rfl fun i ch => attached_of_workers rfl
  | spawns here =>
    refine ⟨_, 0, rewired_of_same rfl ?_⟩
    intro i ch held
    obtain ⟨w, found, held⟩ := held
    rw [List.getElem?_append] at found
    split_ifs at found
    · exact ⟨w, found, held⟩
    · obtain rfl := List.mem_singleton.mp (List.mem_of_getElem? found)
      cases held
  | works other j w c here returned left thread =>
    obtain ⟨b, rewired⟩ := served_rewired h here thread
    exact ⟨b, j, rewired⟩
  | dropsPermit j w here permit returned =>
    refine ⟨_, 0, rewired_of_same rfl ?_⟩
    intro i ch held
    rcases attached_set rfl held with ⟨_, old⟩ | ⟨rfl, old⟩
    · exact old
    · exact ⟨w, here, old⟩
  | @session action v out shares step =>
    refine ⟨action, 0, World.step_traffic step, ?_⟩
    intro i ch held
    refine .inl ⟨held, ?_⟩
    intro same
    rw [same] at shares
    cases shares

/-- A worker is left alone, or its thread has stepped. -/
theorem moves_worker [StateRepository σ] (moves : Moves streamId s a s' o) {j : Nat} {w : Worker}
    (here : s.workers[j]? = some w) :
    ∃ w', s'.workers[j]? = some w' ∧
      ((w'.serving = w.serving ∧ w'.wire = w.wire) ∨
        (w'.serving ≠ .accepted ∧
          (s.connection w).Thread streamId (s'.connection w') o.session)) := by
  have known := (List.getElem?_eq_some_iff.mp here).1
  cases moves with
  | accepts | fails | acquires | spawnFails | dropsUnspawned | session =>
    exact ⟨w, here, .inl ⟨rfl, rfl⟩⟩
  | sees other ready =>
    refine ⟨w, ?_, .inl ⟨rfl, rfl⟩⟩
    unfold update
    split_ifs <;> exact here
  | spawns ready =>
    refine ⟨w, ?_, .inl ⟨rfl, rfl⟩⟩
    change (s.workers ++ _)[j]? = some w
    rw [List.getElem?_append_left known]
    exact here
  | works other i v c found returned left thread =>
    by_cases same : j = i
    · subst same
      obtain rfl := Option.some.inj (found.symm.trans here)
      exact ⟨{ v with serving := c.serving, wire := c.wire }, List.getElem?_set_self known,
        .inr ⟨left, thread⟩⟩
    · refine ⟨w, ?_, .inl ⟨rfl, rfl⟩⟩
      exact (List.getElem?_set_ne (Ne.symm same)).trans here
  | dropsPermit i v found permit returned =>
    by_cases same : j = i
    · subst same
      obtain rfl := Option.some.inj (found.symm.trans here)
      exact ⟨{ v with permit := false }, List.getElem?_set_self known, .inl ⟨rfl, rfl⟩⟩
    · refine ⟨w, ?_, .inl ⟨rfl, rfl⟩⟩
      exact (List.getElem?_set_ne (Ne.symm same)).trans here

/-- A worker whose sender is gone: what it has taken and what waits in its channel are what
waited there, and it begins a frame for each message that it takes. -/
structure Draining (ch : ChannelId) (j frames : Nat) (unread : List StreamMessage)
    (tr : List (PoolAction × PoolOutput)) (s : Pool σ) : Prop where
  piped : s.Piped
  known : ch < s.session.channelCount
  dead : (s.session.channels ch).senderAlive = false
  left : taken ch tr ++ (s.session.channels ch).buffer = unread
  worker : ∃ w, s.workers[j]? = some w ∧ w.serving ≠ .accepted ∧
    (∀ c, w.serving.channel = some c → c = ch) ∧
    (s.connection w).framed ≤ frames + (taken ch tr).length

theorem Draining.step [StateRepository σ] {ch : ChannelId} {j frames : Nat}
    {unread : List StreamMessage} {tr : List (PoolAction × PoolOutput)}
    (h : Draining ch j frames unread tr s) (moves : Moves streamId s a s' o) :
    Draining ch j frames unread (tr ++ [(a, o)]) s' := by
  obtain ⟨b, k, rewired⟩ := moves_rewired h.piped moves
  obtain ⟨dead, left⟩ := (traffic_channel h.piped.wiring h.known rewired.traffic).dead h.dead
  have more : (taken ch (tr ++ [(a, o)])).length =
      (taken ch tr).length + (obtained ch [(.recv ch, o.session)]).length := by
    rw [taken_concat, List.length_append]
  refine ⟨h.piped.rewired rewired, Nat.lt_of_lt_of_le h.known (traffic_count_le rewired.traffic),
    dead, ?_, ?_⟩
  · rw [taken_concat, List.append_assoc, ← h.left]
    exact congrArg (taken ch tr ++ ·) left
  · obtain ⟨w, here, begun, own, count⟩ := h.worker
    obtain ⟨w', here', kept | ⟨begun', thread⟩⟩ := moves_worker moves here
    · refine ⟨w', here', kept.1 ▸ begun, kept.1 ▸ own, ?_⟩
      have same : (s'.connection w').framed = (s.connection w).framed := by
        unfold connection Connection.framed
        rw [kept.1, kept.2]
      omega
    · refine ⟨w', here', begun', ?_⟩
      cases thread with
      | still session channel silent framed =>
        have fewer := framed.resolve_left begun
        refine ⟨fun c held => own c (channel.symm.trans held), ?_⟩
        omega
      | subscribed accepted => exact absurd accepted begun
      | received c r buffer waiting recv session channel output framed =>
        have mine : c = ch := by
          apply own
          rw [show w.serving = .receiving c from waiting]
          rfl
        subst mine
        refine ⟨fun c' held => Option.some.inj (held.symm.trans channel), ?_⟩
        omega
      | hungUp c held session channel output framed =>
        refine ⟨fun c' held' => ?_, ?_⟩
        · cases channel.symm.trans held'
        · omega

end Pool

section Runs

variable {σ : Type} [StateRepository σ] {responses : SerdeJson ServerResponse}
variable {messages : SerdeJson StreamMessage} {streamId : String}
variable {tr : List (PoolAction × PoolOutput)} {s : Pool σ} {w₀ : World σ}

theorem started_piped (start : Started w₀) : (Pool.new w₀).Piped := by
  obtain ⟨project, task, repo, rfl⟩ := start.init
  have nobody {j : Nat} {ch : ChannelId}
      (held : (Pool.new (World.init project task repo)).Attached j ch) : False := by
    obtain ⟨w, here, _⟩ := held
    cases here
  refine ⟨⟨?_, ?_, ?_⟩, ?_, ?_⟩
  · intro ch
    refine ⟨fun held => (by cases held), ?_⟩
    intro live
    exact absurd live.1 (Nat.not_lt_zero ch)
  · intro ch known
    exact absurd known (Nat.not_lt_zero ch)
  · intro ch known
    exact absurd known (Nat.not_lt_zero ch)
  · intro j ch held
    exact (nobody held).elim
  · intro i j ch held _
    exact (nobody held).elim

theorem run_counted (start : Started w₀)
    (run : (pool σ responses messages streamId).Run Machine.anyStep (.new w₀) tr s) :
    s.Counted ∧ Accounted tr s ∧ s.Piped := by
  apply run.history (P := fun tr s => s.Counted ∧ Accounted tr s ∧ s.Piped)
  · refine ⟨⟨rfl, Nat.zero_le _, ?_, ?_⟩, ⟨rfl, rfl, rfl⟩, started_piped start⟩
    · intro active here
      cases here
    · intro j w here
      cases here
  · intro tr t a u o h _ hs
    obtain ⟨counted, accounted, piped⟩ := h
    have moves := Pool.step_moves hs
    obtain ⟨_, _, rewired⟩ := Pool.moves_rewired piped moves
    exact ⟨counted.step moves, accounted.step moves, piped.rewired rewired⟩

/-- The worker's sender is gone: it takes at most 64 more messages, begins a frame for each at
most, and never waits. -/
def WindsDown (responses : SerdeJson ServerResponse) (messages : SerdeJson StreamMessage)
    (streamId : String) (s : Pool σ) (j : Nat) (w : Worker) (ch : ChannelId) : Prop :=
  (s.session.channels ch).senderAlive = false ∧
    ∀ tr u, (pool σ responses messages streamId).Run Machine.anyStep s tr u →
      (taken ch tr).length ≤ 64 ∧
        ∀ w', u.workers[j]? = some w' →
          w'.wire.frames.length ≤ w.wire.frames.length + w.serving.behind + 64 ∧
            (w'.serving = .receiving ch →
              ((pool σ responses messages streamId).step u (.serve j .recv)).isSome)

/-- A worker that has the receiver of a channel without sender can always receive. -/
theorem recv_enabled {j : Nat} {w : Worker} {ch : ChannelId} (piped : s.Piped)
    (here : s.workers[j]? = some w) (waiting : w.serving = .receiving ch)
    (dead : (s.session.channels ch).senderAlive = false) :
    ((pool σ responses messages streamId).step s (.serve j .recv)).isSome := by
  have attached : s.Attached j ch := ⟨w, here, by rw [waiting]; rfl⟩
  obtain ⟨known, alive⟩ := piped.receiver j ch attached
  obtain ⟨c, recv⟩ := SyncChannel.recv_of_dropped dead
  have step : s.session.step streamId (.recv ch) =
      some ({ s.session with channels := Function.update s.session.channels ch c },
        { received := some (ch, (s.session.channels ch).next) }) := by
    unfold World.step
    dsimp only
    rw [if_pos ⟨known, alive⟩, recv]
    rfl
  change (s.step responses messages streamId (.serve j .recv)).isSome
  unfold Pool.step
  dsimp only
  rw [here]
  dsimp only
  have allowed : w.allows .recv = true := rfl
  rw [if_pos allowed, Option.isSome_map]
  unfold Connection.step Pool.connection
  dsimp only
  rw [waiting]
  dsimp only
  rw [step]
  rfl

theorem winds_down {j : Nat} {w : Worker} {ch : ChannelId} (piped : s.Piped)
    (here : s.workers[j]? = some w) (held : w.serving.channel = some ch)
    (other : s.session.state.subscriber ≠ some ch) :
    WindsDown responses messages streamId s j w ch := by
  obtain ⟨known, _⟩ := piped.receiver j ch ⟨w, here, held⟩
  have dead : (s.session.channels ch).senderAlive = false := by
    by_contra alive
    exact other ((piped.wiring.subscriber_iff ch).mpr ⟨known, by simpa using alive⟩)
  refine ⟨dead, ?_⟩
  intro tr u run
  have draining : Pool.Draining ch j (s.connection w).framed (s.session.channels ch).buffer tr u := by
    apply run.history (P := fun tr u =>
      Pool.Draining ch j (s.connection w).framed (s.session.channels ch).buffer tr u)
    · refine ⟨piped, known, dead, rfl, w, here, ?_, ?_, Nat.le_refl _⟩
      · intro accepted
        rw [accepted] at held
        cases held
      · intro c same
        exact Option.some.inj (same.symm.trans held)
    · intro tr t a v o h _ hs
      exact h.step (Pool.step_moves hs)
  have few : (taken ch tr).length ≤ 64 := by
    have all := congrArg List.length draining.left
    have bounded : (s.session.channels ch).buffer.length ≤ 64 := piped.wiring.bounded ch known
    rw [List.length_append] at all
    omega
  refine ⟨few, ?_⟩
  intro w' here'
  obtain ⟨v, found, begun, own, count⟩ := draining.worker
  obtain rfl := Option.some.inj (found.symm.trans here')
  refine ⟨?_, fun waiting => recv_enabled draining.piped here' waiting draining.dead⟩
  change v.wire.frames.length + v.serving.behind ≤
    w.wire.frames.length + w.serving.behind + (taken ch tr).length at count
  omega

omit [StateRepository σ] in
theorem waiting_unique {i j : Nat} (piped : s.Piped) (hi : s.Waiting i) (hj : s.Waiting j) :
    i = j := by
  have live {k : Nat} (hk : s.Waiting k) : ∃ ch, s.Attached k ch ∧ s.session.Live ch := by
    obtain ⟨w, ch, here, waiting, blocked⟩ := hk
    have attached : s.Attached k ch := ⟨w, here, by rw [waiting]; rfl⟩
    refine ⟨ch, attached, (piped.receiver k ch attached).1, ?_⟩
    by_contra dead
    obtain ⟨c, recv⟩ := SyncChannel.recv_of_dropped (by simpa using dead)
    cases blocked.symm.trans recv
  obtain ⟨c, attached, alive⟩ := live hi
  obtain ⟨d, attached', alive'⟩ := live hj
  obtain rfl := piped.wiring.unique alive alive'
  exact piped.distinct i j c attached attached'

/-- The permits of a server are exact: the counter counts them, and there are at most eight; none
is dropped from a counter at zero; a connection is turned away only when there are eight; each
accepted connection is served, turned away, or dropped with its permit; a thread keeps its permit
until it has returned. And a subscriber that is replaced only empties its channel, so that at most
one thread waits. -/
theorem permits_exact (start : Started w₀)
    (run : (pool σ responses messages streamId).Run Machine.anyStep (.new w₀) tr s) :
    (s.activeConnections = s.livePermits ∧ s.livePermits ≤ 8) ∧
      (∀ a s' o, (pool σ responses messages streamId).step s a = some (s', o) →
        (a.drops = true → s'.activeConnections + 1 = s.activeConnections) ∧
          (o.fate = some .busy → s.livePermits = 8)) ∧
      (accepted tr = (fates tr).length + s.accepting.pending ∧
        (fates tr).filter Fate.isServed = (List.range s.workers.length).map Fate.served ∧
        (fates tr).count .unspawned = released tr + s.accepting.unspawned) ∧
      (∀ (j : Nat) w, s.workers[j]? = some w → w.serving.returned = false → w.permit = true) ∧
      (∀ (j : Nat) w ch, s.workers[j]? = some w → w.serving.channel = some ch →
        s.session.state.subscriber ≠ some ch →
          WindsDown responses messages streamId s j w ch) ∧
      ∀ i j, s.Waiting i → s.Waiting j → i = j := by
  obtain ⟨counted, accounted, piped⟩ := run_counted start run
  refine ⟨⟨counted.counter, ?_⟩, ?_, ⟨accounted.accepted, accounted.served, accounted.unspawned⟩,
    ?_, ?_, ?_⟩
  · have bounded : s.activeConnections ≤ 8 := counted.bounded
    rwa [counted.counter] at bounded
  · intro a s' o step
    have moves := Pool.step_moves step
    exact ⟨moves_drop counted moves, moves_busy counted moves⟩
  · intro j w here serving
    by_contra dropped
    have returned := counted.holds j w here (by simpa using dropped)
    rw [serving] at returned
    cases returned
  · intro j w ch here held other
    exact winds_down piped here held other
  · intro i j
    exact waiting_unique piped

/-- Two clients subscribe. -/
def subscribesTwice : List PoolAction := [
    .accept, .load, .exchange false, .spawn true,
    .serve 0 (.subscribe "a"), .serve 0 .wrote, .serve 0 .wrote,
    .accept, .load, .exchange false, .spawn true,
    .serve 1 (.subscribe "b"), .serve 1 .wrote, .serve 1 .wrote]

/-- The second subscriber takes the place of the first, which winds down. -/
theorem permits_exact_replaced :
    ∃ tr s w, (pool Empty (serdeJson ServerResponse) (serdeJson StreamMessage) "s").Run
        Machine.anyStep (.new .new) tr s ∧
      s.activeConnections = 2 ∧ s.livePermits = 2 ∧
      s.workers[0]? = some w ∧ w.serving = .receiving 0 ∧
      s.session.state.subscriber = some 1 ∧
      WindsDown (serdeJson ServerResponse) (serdeJson StreamMessage) "s" s 0 w 0 := by
  have sees : ((pool Empty (serdeJson ServerResponse) (serdeJson StreamMessage) "s").exec
      Machine.anyStep (.new .new) subscribesTwice).map (fun r =>
        (r.2.activeConnections, r.2.workers[0]?.map (fun w => w.serving),
          r.2.session.state.subscriber)) =
      some (2, some (.receiving 0), some 1) := by
    decide +kernel
  obtain ⟨⟨tr, s⟩, executed, facts⟩ := Option.map_eq_some_iff.mp sees
  simp only [Prod.mk.injEq] at facts
  obtain ⟨active, first, subscriber⟩ := facts
  obtain ⟨w, here, serving⟩ := Option.map_eq_some_iff.mp first
  have run := Machine.run_of_exec executed
  obtain ⟨counter, _, _, _, gone, _⟩ := permits_exact .new run
  have held : w.serving.channel = some 0 := by
    rw [serving]
    rfl
  have winds := gone 0 w 0 here held (by rw [subscriber]; simp)
  exact ⟨tr, s, w, run, active, counter.1.symm.trans active, here, serving, subscriber, winds⟩

end Runs

end Kesharon.Server

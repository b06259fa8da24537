import Kesharon.Daemon.Visible
import Kesharon.EventStream.Closed
import Kesharon.EventStream.Received

namespace Kesharon.EventStream

open Framework Application Daemon Host Ipc Protocol Server Workspace

section Frames

variable {client : DaemonClient} {streamId : String} {first : Replica} {since : Nat}
variable {events : List DaemonEvent} {wire : Wire} {frames : List (List UInt8)}

/-- What the frames of a connection are, place by place. -/
structure Spoken (streamId : String) (first : Replica) (since : Nat) (events : List DaemonEvent)
    (frames : List (List UInt8)) : Prop where
  response : ∀ payload, frames[0]? = some payload → ∃ response : ServerResponse,
    payload = payloadOf response ∧
      ∀ id, response.result = some (.subscriptionReady id) → id = streamId
  snapshot : ∀ payload, frames[1]? = some payload → ∃ snapshot : WorkspaceSnapshot,
    payload = payloadOf (StreamMessage.snapshot snapshot) ∧
      Snapshotted streamId first events snapshot ∧ since ≤ snapshot.lastSequence.toNat
  event : ∀ k payload, frames[k + 2]? = some payload →
    ∃ event ∈ events, payload = payloadOf (StreamMessage.event event)

theorem Carried.spoken (h : Carried streamId first since events frames) :
    Spoken streamId first since events frames := by
  cases h with
  | nothing empty =>
    rw [empty]
    refine ⟨?_, ?_, ?_⟩ <;> simp
  | refused requestId only =>
    rw [only]
    refine ⟨?_, ?_, ?_⟩
    · intro payload here
      obtain rfl := Option.some.inj here
      refine ⟨_, rfl, ?_⟩
      intro id ready
      cases ready
    · intro payload here
      cases here
    · intro k payload here
      cases here
  | subscription requestId snapshot sent newer snapshotted behind written =>
    obtain ⟨rest, whole⟩ := written
    have place {i : Nat} {payload : List UInt8} (here : frames[i]? = some payload) :
        (payloadOf (ServerResponse.success requestId (.subscriptionReady streamId)) ::
          payloadOf (StreamMessage.snapshot snapshot) ::
          sent.map fun e => payloadOf (StreamMessage.event e))[i]? = some payload := by
      rw [← whole, List.getElem?_append_left (List.getElem?_eq_some_iff.mp here).1]
      exact here
    refine ⟨?_, ?_, ?_⟩
    · intro payload here
      obtain rfl := Option.some.inj (place here)
      refine ⟨_, rfl, ?_⟩
      intro id ready
      cases ready
      rfl
    · intro payload here
      obtain rfl := Option.some.inj (place here)
      exact ⟨snapshot, rfl, snapshotted, newer⟩
    · intro k payload here
      have there := place here
      rw [List.getElem?_cons_succ, List.getElem?_cons_succ, List.getElem?_map] at there
      obtain ⟨event, at_, rfl⟩ := Option.map_eq_some_iff.mp there
      have among := behind.subset (List.mem_of_getElem? at_)
      exact ⟨event, List.mem_of_mem_drop among, rfl⟩

/-- A payload that is framed is read as what it was written from. -/
theorem decodeFrame_payloadOf {α : Type} [Serde α] [LawfulSerde α] {json : SerdeJson α}
    (lawful : json.Lawful) (shallow : LawfulSerde.levels α ≤ Json.maxDepth) {v v' : α}
    (fits : (payloadOf v).length ≤ MAX_FRAME_BYTES)
    (decoded : decodeFrame json (frameOf (payloadOf v)) = .ok v') : v' = v := by
  have known : decodeFrame json (frameOf (payloadOf v)) = .ok v :=
    decodeFrame_encoded lawful shallow fits
  exact Except.ok.inj (decoded.symm.trans known)

theorem Spoken.clear (h : Spoken streamId first since events frames) : Clear frames := by
  intro k payload behind here
  obtain ⟨n, rfl⟩ : ∃ n, k = n + 2 := ⟨k - 2, by omega⟩
  obtain ⟨event, _, rfl⟩ := h.event n payload here
  exact unmistakable_text _

/-- The id of a handshake is that of the daemon. -/
theorem Spoken.announces (h : Spoken streamId first since events wire.frames) (valid : wire.Valid)
    (responses : client.responses.Lawful) {id : String} (announces : Announces client wire id) :
    id = streamId := by
  obtain ⟨payload, response, here, decoded, ready⟩ := announces
  obtain ⟨written, rfl, own⟩ := h.response payload here
  have fits := valid.fits _ (List.mem_of_getElem? here)
  have same := decodeFrame_payloadOf responses (by decide) fits
    (decodeServerResponseFrame_ok.mp decoded).1
  rw [same] at ready
  exact own id ready

/-- The snapshot of a handshake is the daemon's, and not older than the connection. -/
theorem Spoken.introduces (h : Spoken streamId first since events wire.frames) (valid : wire.Valid)
    (messages : client.messages.Lawful) {snapshot : WorkspaceSnapshot}
    (introduces : Introduces client wire snapshot) :
    Snapshotted streamId first events snapshot ∧ since ≤ snapshot.lastSequence.toNat := by
  obtain ⟨payload, here, decoded⟩ := introduces
  obtain ⟨written, rfl, own⟩ := h.snapshot payload here
  have fits := valid.fits _ (List.mem_of_getElem? here)
  have same := decodeFrame_payloadOf messages (by decide) fits
    (decodeStreamMessageFrame_ok.mp decoded).1
  rw [StreamMessage.snapshot.inj same]
  exact own

/-- A message read behind the handshake is an event of the daemon. -/
theorem Spoken.message (h : Spoken streamId first since events wire.frames) (valid : wire.Valid)
    (messages : client.messages.Lawful) {k : Nat} {payload : List UInt8} {message : StreamMessage}
    (behind : 2 ≤ k) (here : wire.frames[k]? = some payload)
    (decoded : decodeStreamMessageFrame client.messages (frameOf payload) = .ok message) :
    ∃ event ∈ events, message = .event event := by
  obtain ⟨n, rfl⟩ : ∃ n, k = n + 2 := ⟨k - 2, by omega⟩
  obtain ⟨event, among, rfl⟩ := h.event n payload here
  have fits := valid.fits _ (List.mem_of_getElem? here)
  exact ⟨event, among, decodeFrame_payloadOf messages (by decide) fits
    (decodeStreamMessageFrame_ok.mp decoded).1⟩

end Frames

section Line

variable {σ : Type} [StateRepository σ] {client : DaemonClient} {streamId : String}
variable {first : Replica} {events : List DaemonEvent} {view : Option Replica}
variable {s s' : Parties σ} {a : PartyAction} {o : PartyOutput}

/-- The way from the session to what a client knows. A view is not newer than the connection that
a worker subscribes on. -/
structure Line (client : DaemonClient) (streamId : String) (first : Replica)
    (events : List DaemonEvent) (view : Option Replica) (s : Parties σ) : Prop where
  kept : Kept client s
  emitted : Emitted streamId first events s.session
  reader : Reader client s.host
  faithful : Faithful first events view
  watches : Watches streamId first events view s.host.worker
  connection : ∃ since ≤ events.length,
    Serves streamId first since events ⟨s.session,s.serving,s.host.wire⟩ ∧
      ∀ b, s.host.call = some (.subscribing b) → ∀ replica, view = some replica →
        replica.lastSequence.toNat ≤ since

omit [StateRepository σ] in
theorem Serves.frames {since : Nat} {c : Connection σ} {wire : Wire}
    (h : Serves streamId first since events c) (same : wire.frames = c.wire.frames) :
    Serves streamId first since events { c with wire := wire } := by
  unfold Serves at h ⊢
  rw [same]
  exact h

/-- Reads, and what a worker does by itself, leave the frames alone. -/
theorem step_frames {host host' : HostStream} {action : StreamAction} {out : StreamOutput}
    (connects : action ≠ .connect) (writes : ∀ payload, action ≠ .write payload)
    (step : host.step client action = some (host', out)) :
    host'.wire.frames = host.wire.frames := by
  cases HostStream.step_moves step with
  | worker | began | arrived | closed => rfl
  | connected => exact absurd rfl connects
  | wrote => exact absurd rfl (writes _)
  | subscribing _ met | subscribed _ met | reading _ met | read _ met =>
    exact Wire.read_frames met

/-- A worker that subscribes sends nothing. -/
theorem silent_subscribing {w w' : StreamWorker} {action : WorkerAction} {out : WorkerOutput}
    (here : w.location = .subscribing) (step : w.step action = some (w', out)) :
    viewAfter view out = view := by
  cases StreamWorker.step_moves step with
  | sent delivered next => simp [StreamWorker.send, here] at next
  | cancelled | checked | clientFound | clientMissing | clientRechecked | subscribeReturned | woke
  | readReturned | healthReturned => rfl

section Host

variable {t : HostStream} {action : StreamAction} {out : StreamOutput}

omit [StateRepository σ] in
/-- What the worker learns in a step. -/
theorem Line.learns (h : Line client streamId first events view s)
    (responses : client.responses.Lawful) (messages : client.messages.Lawful)
    (objects : client.messages.ReadsObjects) (step : s.host.step client action = some (t, out)) :
    Watches streamId first events (viewAfter view out.worker) t.worker ∧
      Faithful first events (viewAfter view out.worker) ∧
      Advances view (viewAfter view out.worker) := by
  obtain ⟨since, _, serves, older⟩ := h.connection
  have spoken := serves.carried.spoken
  have valid := h.kept.valid
  have same : Watches streamId first events view s.host.worker ∧ Faithful first events view ∧
      Advances view view := ⟨h.watches, h.faithful, .refl view⟩
  have told := fun message (returned : out.returned = some (.readReturns (.ok message))) =>
    h.reader.read_frame spoken.clear objects step returned
  cases HostStream.step_moves step with
  | worker reads subscribes refused moved =>
    refine h.watches.step h.faithful h.emitted.numbered moved ?_ ?_
    · intro subscription returned
      exact absurd returned (subscribes subscription)
    · intro message returned
      exact absurd returned (reads _)
  | @subscribed b read late result wire r w out call met done moved =>
    refine h.watches.step h.faithful h.emitted.numbered moved ?_ ?_
    · intro subscription returned
      obtain rfl := WorkerAction.subscribeReturns.inj returned
      obtain ⟨announces, introduces⟩ :=
        ((h.reader.greets.greeting b call).turn valid met late).2 subscription done
      rw [← Wire.read_frames met] at spoken
      obtain ⟨snapshotted, newer⟩ := spoken.introduces (valid.read met) messages introduces
      refine ⟨spoken.announces (valid.read met) responses announces, snapshotted, ?_⟩
      intro replica seen
      exact Nat.le_trans (older b call replica seen) newer
    · intro message returned
      cases returned
  | read call met done moved =>
    refine h.watches.step h.faithful h.emitted.numbered moved ?_ ?_
    · intro subscription returned
      cases returned
    · intro message returned
      obtain rfl := WorkerAction.readReturns.inj returned
      obtain ⟨k, payload, behind, here, _, decoded, _⟩ := told message rfl
      exact spoken.message valid messages behind here decoded
  | connected | began | subscribing | reading | wrote | arrived | closed => exact same

omit [StateRepository σ] in
theorem Line.host (h : Line client streamId first events view s)
    (responses : client.responses.Lawful) (messages : client.messages.Lawful)
    (objects : client.messages.ReadsObjects) (connects : action ≠ .connect)
    (writes : ∀ payload, action ≠ .write payload)
    (step : s.host.step client action = some (t, out))
    (kept : Kept client { s with host := t }) :
    Line client streamId first events (viewAfter view out.worker) { s with host := t } ∧
      Advances view (viewAfter view out.worker) := by
  obtain ⟨watches, faithful, advances⟩ := h.learns responses messages objects step
  obtain ⟨since, began, serves, older⟩ := h.connection
  refine ⟨⟨kept, h.emitted, h.reader.step step, faithful, watches, since, began,
    serves.frames (step_frames connects writes step), ?_⟩, advances⟩
  intro b calling
  cases HostStream.step_moves step with
  | worker reads subscribes refused moved =>
    have here : s.host.worker.location = .subscribing := by
      change s.host.call = some (.subscribing b) at calling
      cases h.kept.calls with
      | free free => simp [free] at calling
      | subscribing call here => exact here
      | reading call => simp [call] at calling
    rw [silent_subscribing here moved]
    exact older b calling
  | connected => exact absurd rfl connects
  | subscribing call => exact older _ call
  | began | subscribed | reading | read => cases calling
  | wrote => exact absurd rfl (writes _)
  | arrived | closed => exact older b calling

omit [StateRepository σ] in
theorem Line.hostStep (h : Line client streamId first events view s)
    (responses : client.responses.Lawful) (messages : client.messages.Lawful)
    (objects : client.messages.ReadsObjects) (step : s.hostStep client action = some (s', o))
    (kept : Kept client s') (connects : action ≠ .connect)
    (writes : ∀ payload, action ≠ .write payload) :
    Line client streamId first (events ++ o.session.events) (viewAfter view o.host.worker) s' ∧
      Advances view (viewAfter view o.host.worker) := by
  simp only [Parties.hostStep, Option.map_eq_some_iff, Prod.exists, Prod.mk.injEq] at step
  obtain ⟨t, out, moved, rfl, rfl⟩ := step
  rw [List.append_nil]
  exact h.host responses messages objects connects writes moved kept

omit [StateRepository σ] in
/-- A new connection begins now, and the view is not newer than that. -/
theorem Line.connect (h : Line client streamId first events view s) {b : StreamCall}
    (kept : Kept client { s with
      serving := .accepted, host := { s.host with call := some b, wire := .new, started := 0 } })
    (reader : Reader client { s.host with call := some b, wire := .new, started := 0 }) :
    Line client streamId first events view { s with
      serving := .accepted, host := { s.host with call := some b, wire := .new, started := 0 } } := by
  refine ⟨kept, h.emitted, reader, h.faithful, h.watches, events.length, Nat.le_refl _, rfl, ?_⟩
  intro _ _ replica seen
  exact (h.faithful replica seen).1

end Host

theorem Line.session {action : Action} (h : Line client streamId first events view s)
    (healthy : Healthy s'.session) (kept : Kept client s')
    (step : s.step client streamId (.session action) = some (s', o)) :
    Line client streamId first (events ++ o.session.events) (viewAfter view o.host.worker) s' ∧
      Advances view (viewAfter view o.host.worker) := by
  simp only [Parties.step] at step
  split_ifs at step with alone
  simp only [Option.map_eq_some_iff, Prod.exists, Prod.mk.injEq] at step
  obtain ⟨w, out, moved, rfl, rfl⟩ := step
  have moved : (Daemon.session σ streamId).step s.session action = some (w, out) := moved
  obtain ⟨since, began, serves, older⟩ := h.connection
  refine ⟨⟨kept, h.emitted.step healthy moved, h.reader, h.faithful.append _, h.watches.append _,
    since, ?_, ?_, older⟩, .refl view⟩
  · rw [List.length_append]
    exact Nat.le_add_right_of_le began
  · exact serves.session h.emitted healthy moved (Bool.eq_false_iff.mpr alone)

theorem Line.serve {action : ServeAction} (h : Line client streamId first events view s)
    (responses : client.responses.Lawful) (messages : client.messages.Lawful)
    (healthy : Healthy s'.session) (kept : Kept client s')
    (step : s.step client streamId (.serve action) = some (s', o)) :
    Line client streamId first (events ++ o.session.events) (viewAfter view o.host.worker) s' ∧
      Advances view (viewAfter view o.host.worker) := by
  have reader : Reader client s'.host := by
    cases (Parties.serve_moves h.kept.thread step).1 with
    | daemon _ _ _ _ moved => exact h.reader.step moved
    | still _ _ same =>
      rw [same]
      exact h.reader
  simp only [Parties.step, Option.map_eq_some_iff, Prod.exists, Prod.mk.injEq] at step
  obtain ⟨c, out, served, rfl, rfl⟩ := step
  obtain ⟨since, began, serves, older⟩ := h.connection
  obtain ⟨serves', emitted⟩ := serves.serve responses messages began h.emitted healthy served
  refine ⟨⟨kept, emitted, reader, h.faithful.append _, h.watches.append _, since, ?_, serves',
    older⟩, .refl view⟩
  rw [List.length_append]
  exact Nat.le_add_right_of_le began

theorem Line.step (h : Line client streamId first events view s)
    (responses : client.responses.Lawful) (messages : client.messages.Lawful)
    (objects : client.messages.ReadsObjects) (healthy : Healthy s'.session)
    (step : s.step client streamId a = some (s', o)) :
    Line client streamId first (events ++ o.session.events) (viewAfter view o.host.worker) s' ∧
      Advances view (viewAfter view o.host.worker) := by
  have kept := h.kept.step step
  cases a with
  | session action => exact h.session healthy kept step
  | serve action => exact h.serve responses messages healthy kept step
  | arrive count =>
    have step : s.hostStep client (.arrive count) = some (s', o) := step
    exact h.hostStep responses messages objects step kept (by simp) (by simp)
  | host action =>
    cases action with
    | write payload | arrive count | close count => simp [Parties.step] at step
    | connect =>
      simp only [Parties.step, Option.map_eq_some_iff, Prod.exists, Prod.mk.injEq] at step
      obtain ⟨t, out, begun, rfl, rfl⟩ := step
      simp only [Parties.hostStep, Option.map_eq_some_iff, Prod.exists, Prod.mk.injEq] at begun
      obtain ⟨host, out, moved, rfl, rfl⟩ := begun
      have reader := h.reader.step moved
      rw [List.append_nil]
      cases HostStream.step_moves moved with
      | connected here free start => exact ⟨h.connect kept reader, .refl view⟩
    | worker action =>
      have step : s.hostStep client (.worker action) = some (s', o) := step
      exact h.hostStep responses messages objects step kept (by simp) (by simp)
    | startRead =>
      have step : s.hostStep client .startRead = some (s', o) := step
      exact h.hostStep responses messages objects step kept (by simp) (by simp)
    | turn read late =>
      have step : s.hostStep client (.turn read late) = some (s', o) := step
      exact h.hostStep responses messages objects step kept (by simp) (by simp)

/-- A daemon that has just started, and a client that knows nothing. -/
theorem Line.start {w : World σ} (start : Started w) :
    Line client streamId (w.replica streamId) [] none (.new w) := by
  refine ⟨⟨?_, Wire.new_valid, .free rfl⟩, .start start, reader_new, ?_, trivial, 0, Nat.le_refl _,
    rfl, ?_⟩
  · intro closed
    exact absurd rfl closed
  · intro replica seen
    cases seen
  · intro b calling
    cases calling

/-- What a worker sends in a step is of the stream of the daemon. -/
theorem Line.told (h : Line client streamId first events view s)
    (step : s.step client streamId a = some (s', o)) {u : DaemonStreamUpdate} {delivered : Bool}
    (sent : o.host.worker.sent = some (u, delivered)) : Told streamId view u := by
  cases (Parties.step_moves h.kept.thread step).1 with
  | daemon _ _ quiet =>
    rw [quiet] at sent
    cases sent
  | still _ quiet =>
    rw [quiet] at sent
    cases sent
  | host moved =>
    generalize s'.host = t, o.host = out at moved sent
    cases HostStream.step_moves moved with
    | worker _ _ _ own | subscribed _ _ _ own | read _ _ _ own =>
      exact h.watches.told h.emitted.numbered own sent
    | connected | began | subscribing | reading | wrote | arrived | closed => cases sent

end Line

/-- What a step of the thread is to the session: nothing, or a step of it. -/
theorem serve_session {σ : Type} [StateRepository σ] {responses : SerdeJson ServerResponse}
    {messages : SerdeJson StreamMessage} {streamId : String} {c c' : Connection σ}
    {a : ServeAction} {o : Output} (step : c.step responses messages streamId a = some (c', o)) :
    o = {} ∨ ∃ b, c.session.step streamId b = some (c'.session, o) := by
  unfold Connection.step at step
  cases a with
  | subscribe requestId =>
    dsimp only at step
    split at step
    · have session : (c.subscribe responses messages streamId requestId).1.session =
          (c.session.subscribe streamId).1 := subscribe_session responses messages requestId c
      have output : (c.subscribe responses messages streamId requestId).2 =
          (c.session.subscribe streamId).2 := by
        unfold Connection.subscribe
        dsimp only
        split
        · split <;> rfl
        · rfl
      rw [Option.some.inj step] at session output
      refine .inr ⟨.subscribe, ?_⟩
      change some ((c.session.subscribe streamId).1, (c.session.subscribe streamId).2) = _
      rw [← session, ← output]
    · cases step
  | recv =>
    dsimp only at step
    split at step
    · split at step
      · rename_i ch _ _ w out received
        simp only [Option.map_eq_some_iff, Prod.mk.injEq] at step
        obtain ⟨message, _, rfl, rfl⟩ := step
        rw [deliver_session]
        exact .inr ⟨_, received⟩
      · cases step
    · cases step
  | dropReceiver =>
    dsimp only at step
    split at step
    · simp only [Option.map_eq_some_iff, Prod.exists, Prod.mk.injEq] at step
      obtain ⟨w, out, hung, rfl, rfl⟩ := step
      exact .inr ⟨_, hung⟩
    · exact .inl (Prod.mk.inj (Option.some.inj step)).2.symm
    · cases step
  | rejectBusy requestId | giveUp | wrote | writeFails unsent | dropStream =>
    dsimp only at step
    split at step
    · exact .inl (Prod.mk.inj (Option.some.inj step)).2.symm
    · cases step

section Runs

variable {σ : Type} [StateRepository σ] {client : DaemonClient} {streamId : String}
variable {s s' : Parties σ} {a : PartyAction} {o : PartyOutput}
variable {tr : List (PartyAction × PartyOutput)} {w : World σ}

/-- A step emits an event or none. -/
theorem step_events (step : s.step client streamId a = some (s', o)) :
    o.session.events.length ≤ 1 := by
  have one {w w' : World σ} {b : Action} {out : Output}
      (moved : w.step streamId b = some (w', out)) : out.events.length ≤ 1 := by
    have visible := World.step_visible moved
    generalize out.events = events at visible
    cases visible <;> simp
  cases a with
  | session action =>
    simp only [Parties.step] at step
    split_ifs at step
    simp only [Option.map_eq_some_iff, Prod.exists, Prod.mk.injEq] at step
    obtain ⟨w, out, moved, rfl, rfl⟩ := step
    exact one moved
  | serve action =>
    simp only [Parties.step, Option.map_eq_some_iff, Prod.exists, Prod.mk.injEq] at step
    obtain ⟨c, out, served, rfl, rfl⟩ := step
    rcases serve_session served with rfl | ⟨b, moved⟩
    · exact Nat.zero_le 1
    · exact one moved
  | arrive count =>
    simp only [Parties.step, Parties.hostStep, Option.map_eq_some_iff, Prod.exists,
      Prod.mk.injEq] at step
    obtain ⟨t, out, _, rfl, rfl⟩ := step
    exact Nat.zero_le 1
  | host action =>
    cases action <;>
      simp only [Parties.step, Parties.hostStep, Option.map_map, Option.map_eq_some_iff,
        Prod.exists, Function.comp, Prod.mk.injEq, reduceCtorEq] at step
    all_goals
      obtain ⟨t, out, _, rfl, rfl⟩ := step
      exact Nat.zero_le 1

/-- Only steps of a healthy session. -/
abbrev healthyParties (_ : Parties σ) (_ : PartyAction) (s : Parties σ) : Prop := Healthy s.session

omit [StateRepository σ] in
theorem published_snoc (tr : List (PartyAction × PartyOutput)) (a : PartyAction)
    (o : PartyOutput) : published (tr ++ [(a, o)]) = published tr ++ o.session.events := by
  simp [published]

/-- What a step adds to what the channel took. -/
theorem delivered_snoc (tr : List (PartyAction × PartyOutput)) (a : PartyAction)
    (o : PartyOutput) (view : Option Replica) :
    delivered (tr ++ [(a, o)]) = delivered tr ∧ viewAfter view o.host.worker = view ∨
      ∃ u, o.host.worker.sent = some (u, true) ∧
        delivered (tr ++ [(a, o)]) = delivered tr ++ [u] ∧
        viewAfter view o.host.worker = viewStep view u := by
  unfold viewAfter
  cases sent : o.host.worker.sent with
  | none => exact .inl ⟨by simp [delivered, sent], rfl⟩
  | some r =>
    obtain ⟨u, took⟩ := r
    cases took with
    | false => exact .inl ⟨by simp [delivered, sent], rfl⟩
    | true => exact .inr ⟨u, rfl, by simp [delivered, sent], rfl⟩

theorem delivered_append (tr tr' : List (PartyAction × PartyOutput)) :
    delivered (tr ++ tr') = delivered tr ++ delivered tr' :=
  List.filterMap_append

theorem run_line (start : Started w) (responses : client.responses.Lawful)
    (messages : client.messages.Lawful) (objects : client.messages.ReadsObjects)
    (run : (eventStream σ client streamId).Run healthyParties (.new w) tr s) :
    Line client streamId (w.replica streamId) (published tr) (viewOf (delivered tr)) s ∧
      Tale streamId (delivered tr) := by
  apply run.history (P := fun tr s =>
    Line client streamId (w.replica streamId) (published tr) (viewOf (delivered tr)) s ∧
      Tale streamId (delivered tr))
  · exact ⟨.start start, .nil⟩
  · intro tr t a u o ⟨line, tale⟩ healthy step
    obtain ⟨line', advances⟩ := line.step responses messages objects healthy step
    rw [published_snoc]
    rcases delivered_snoc tr a o (viewOf (delivered tr)) with ⟨same, still⟩ | ⟨v, sent, more, next⟩
    · rw [same]
      rw [still] at line'
      exact ⟨line', tale⟩
    · rw [next] at line' advances
      rw [more, viewOf_snoc]
      exact ⟨line', .snoc tale (line.told step sent) advances⟩

/-- Each number of events was all of them at some time. -/
theorem run_reached {ok : Parties σ → PartyAction → Parties σ → Prop}
    (run : (eventStream σ client streamId).Run ok (.new w) tr s) {n : Nat}
    (known : n ≤ (published tr).length) :
    ∃ before t, before <+: tr ∧ (eventStream σ client streamId).Run ok (.new w) before t ∧
      published before = (published tr).take n := by
  induction run with
  | nil =>
    refine ⟨[], _, List.nil_prefix, .nil _, ?_⟩
    simp [published]
  | @snoc t u tr a o upTo allowed step ih =>
    rw [published_snoc, List.length_append] at known
    have one := step_events step
    by_cases old : n ≤ (published tr).length
    · obtain ⟨before, t', front, run, same⟩ := ih old
      refine ⟨before, t', front.trans (List.prefix_append _ _), run, ?_⟩
      rw [published_snoc, List.take_append_of_le_length old]
      exact same
    · refine ⟨tr ++ [(a, o)], u, List.prefix_refl _, .snoc upTo allowed step, ?_⟩
      rw [List.take_of_length_le]
      rw [published_snoc, List.length_append]
      omega

/-- What is known is what the session was at some time before. -/
theorem run_past (start : Started w) (responses : client.responses.Lawful)
    (messages : client.messages.Lawful) (objects : client.messages.ReadsObjects)
    (run : (eventStream σ client streamId).Run healthyParties (.new w) tr s) {replica : Replica}
    (seen : viewOf (delivered tr) = some replica) :
    ∃ before t, before <+: tr ∧
      (eventStream σ client streamId).Run healthyParties (.new w) before t ∧
      replica = t.session.replica streamId := by
  obtain ⟨line, _⟩ := run_line start responses messages objects run
  obtain ⟨known, state⟩ := line.faithful replica seen
  obtain ⟨before, t, front, upTo, same⟩ := run_reached run known
  obtain ⟨then_, _⟩ := run_line start responses messages objects upTo
  refine ⟨before, t, front, upTo, ?_⟩
  rw [state, then_.emitted.replica, same]

/-- Whatever the transport, the timeouts of the reads, the other connections and the refusals do:
what the updates that the decoder takes tell a window is what the session was at some time before,
and its position is that time's; from one update to the next, across all connections, it does not go
back. Whatever else the window dispatches in between does not move its position, and its project
only where it is the project of a reply. -/
theorem window_shows_past_session (numerals : String → Rat) (start : Started w)
    (responses : client.responses.Lawful) (messages : client.messages.Lawful)
    (objects : client.messages.ReadsObjects)
    (run : (eventStream σ client streamId).Run healthyParties (.new w) tr s) :
    Displays streamId (windowOf (received numerals (delivered tr)))
        (viewOf (received numerals (delivered tr))) ∧
      (∀ replica, viewOf (received numerals (delivered tr)) = some replica →
        ∃ before t, before <+: tr ∧
          (eventStream σ client streamId).Run healthyParties (.new w) before t ∧
          replica = t.session.replica streamId) ∧
      (∀ tr₁ tr₂, tr = tr₁ ++ tr₂ →
        Advances (viewOf (received numerals (delivered tr₁)))
          (viewOf (received numerals (delivered tr)))) ∧
      ∀ others actions,
        Merge ((received numerals (delivered tr)).flatMap updateActions) others actions →
        (∀ a ∈ others, isOfStream a = false) →
        place (dispatchAll initialState actions) =
            place (windowOf (received numerals (delivered tr))) ∧
          ((∀ project, .projectOpened project ∉ others) →
            (dispatchAll initialState actions).project =
              (windowOf (received numerals (delivered tr))).project) := by
  obtain ⟨_, tale⟩ := run_line start responses messages objects run
  obtain ⟨⟨front, early, same⟩, displays⟩ := tale.received_front numerals
  refine ⟨displays, ?_, ?_, ?_⟩
  · intro replica seen
    obtain ⟨tr₁, ⟨tr₂, whole⟩, rfl⟩ := List.prefix_filterMap_iff.mp early
    rw [← whole] at run ⊢
    obtain ⟨t, upTo, _⟩ := run.split
    obtain ⟨before, u, earlier, past⟩ :=
      run_past start responses messages objects upTo (same.symm.trans seen)
    exact ⟨before, u, earlier.trans (List.prefix_append _ _), past⟩
  · rintro tr₁ tr₂ rfl
    rw [delivered_append] at tale ⊢
    exact tale.received_advances
  · intro others actions merged aside
    exact window_aside merged aside

end Runs

/-- The host's client, with the codecs of the wire. -/
def daemonClient : DaemonClient := ⟨serdeJson _,serdeJson _,2000⟩

/-- A worker that has found a client connects, and announces the snapshot. -/
def connecting : List PartyAction := [
  .host (.worker (.client true)), .host (.worker .check), .host .connect,
  .serve (.subscribe "r"), .serve .wrote, .serve .wrote, .arrive 1000,
  .host (.turn (.bytes 4) 0), .host (.turn (.bytes 500) 0), .host (.turn (.bytes 4) 0),
  .host (.turn (.bytes 500) 0), .host (.worker .check), .host (.worker (.send true))]

/-- An event is cut short, the next read begins inside it and is refused, the operation fails, and
the worker connects again. -/
def cutAndAgain : List PartyAction :=
  .host (.worker .check) :: connecting ++ [
    .session (.dispatch ⟨PROTOCOL_VERSION,"a",.openProject "/p",some "k"⟩), .serve .recv,
    .serve .wrote, .arrive 6, .host (.worker .check), .host (.worker .check), .host .startRead,
    .host (.turn (.bytes 4) 0), .host (.turn (.bytes 20) 0), .host (.turn .wouldBlock 150),
    .host (.worker .check), .host (.worker (.client true)), .host (.worker (.healthReturns true)),
    .session (.firstCheck 0),
    .session (.inspectReturns 0 (.error (.repository "notGitRepository"))), .session (.finish 0),
    .arrive 1000, .host (.worker .check), .host (.worker .check), .host .startRead,
    .host (.turn (.bytes 4) 0), .host (.worker .check), .host (.worker (.send true)),
    .serve .recv, .serve (.writeFails 0), .serve .dropReceiver, .serve .dropStream,
    .host (.worker .check)] ++ connecting

theorem window_shows_past_session_again :
    ∃ tr s replica, (eventStream Empty daemonClient "s").Run healthyParties (.new World.new) tr s ∧
      viewOf (received (fun _ => 0) (delivered tr)) = some replica ∧ replica.lastSequence = 2 ∧
      ∃ before t, before <+: tr ∧
        (eventStream Empty daemonClient "s").Run healthyParties (.new World.new) before t ∧
        replica = t.session.replica "s" := by
  have ends : ((eventStream Empty daemonClient "s").exec healthyParties (.new World.new)
      cutAndAgain).bind (fun r =>
        (viewOf (received (fun _ => 0) (delivered r.1))).map Replica.lastSequence) = some 2 := by
    decide +kernel
  obtain ⟨⟨tr, s⟩, executed, last⟩ := Option.bind_eq_some_iff.mp ends
  obtain ⟨replica, seen, two⟩ := Option.map_eq_some_iff.mp last
  have run := Machine.run_of_exec executed
  obtain ⟨_, past, _⟩ := window_shows_past_session (fun _ => 0) .new serdeJson_lawful
    serdeJson_lawful serdeJson_readsObjects run
  exact ⟨tr, s, replica, run, seen, two, past replica seen⟩

end Kesharon.EventStream

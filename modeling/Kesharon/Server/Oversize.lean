import Kesharon.Daemon.Replies
import Kesharon.Daemon.Storage
import Kesharon.Protocol.Sizes
import Kesharon.Server.Authentication
import Kesharon.Server.Handler

namespace Kesharon.Server

open Framework Framework.Json Application Kesharon.Daemon Protocol

/-- Bounds on what comes in: on the payload of a request's frame, and on the JSON of a project that
a use case returns. -/
structure Limits where
  request : Nat
  project : Nat

/-- The longest envelope around what a message repeats. -/
def ENVELOPE : Nat := 230

/-- A message within the limits fits in a frame. -/
def Limits.Room (limits : Limits) (streamId : String) : Prop :=
  textSize streamId + limits.request + limits.project + ENVELOPE ≤ MAX_FRAME_BYTES

section Bounds

variable {σ : Type} [StateRepository σ] {service : Service} {limits : Limits} {w w' : World σ}
variable {a : Action} {o : Output}

/-- A request comes in a frame within the limit, and a use case returns a project within its. -/
def smallStep (service : Service) (limits : Limits) (w : World σ) (a : Action) (_ : World σ) :
    Prop :=
  match a with
  | .dispatch request => ∃ frame, decodeClientRequestFrame service.daemon.requests frame = .ok request ∧
      frame.length ≤ limits.request + 4
  | .finish flag => ∀ call p, w.opens.lookup flag = some call →
      call.execution = .returned (.ok p) → jsonSize (snapshotOf p) ≤ limits.project
  | _ => True

/-- The strings of the request that a step answers, without its id. -/
def actionEcho : Action → Nat
  | .dispatch request => request.method.echo
  | _ => 0

def fingerprintEcho : MutationFingerprint → Nat
  | .openProject path => textSize path
  | .cancelRequest targetRequestId => textSize targetRequestId

theorem fingerprintEcho_of {method : RequestMethod} {fingerprint : MutationFingerprint}
    (h : fingerprintOf method = some fingerprint) : fingerprintEcho fingerprint = method.echo := by
  cases method with
  | health | subscribeEvents => exact nomatch h
  | openProject | cancelRequest =>
    obtain rfl := Option.some.inj h
    rfl

/-- What a session holds is within the limits. -/
structure Bounded (streamId : String) (limits : Limits) (w : World σ) : Prop where
  calls : ∀ f c, w.opens.lookup f = some c → textSize c.request.requestId ≤ limits.request
  completed : ∀ key m, w.state.completed.lookup key = some m → m.response.bodySize ≤
    fingerprintEcho m.fingerprint + limits.project + textSize streamId + 152
  queued : ∀ ch m, m ∈ (w.channels ch).buffer → Fits m

theorem classify_size (e : ApplicationError) :
    jsonSize (classifyApplicationError e).1 + textSize (classifyApplicationError e).2 ≤ 64 := by
  cases e with
  | repository message =>
    have git : jsonSize ErrorCode.notGitRepository +
        textSize "Selected directory is not a Git worktree" ≤ 64 := by decide
    have path : jsonSize ErrorCode.projectPathUnavailable +
        textSize "Selected directory could not be opened" ≤ 64 := by decide
    by_cases named : message = "notGitRepository"
    · simpa only [classifyApplicationError, named, if_true] using git
    · simpa only [classifyApplicationError, named, if_false] using path
  | invalidProject message =>
    have text : jsonSize ErrorCode.invalidRequest + textSize "Project identity is invalid" ≤ 64 := by
      decide
    exact text
  | storage message =>
    have text : jsonSize ErrorCode.internalError + textSize "Storage error encountered" ≤ 64 := by
      decide
    exact text
  | vault message =>
    have text : jsonSize ErrorCode.internalError +
        textSize "Credential vault error encountered" ≤ 64 := by decide
    exact text
  | cancelled => decide

theorem refusal_bodySize {requestId : String} {r : ServerResponse} (h : Refusal requestId r) :
    r.bodySize ≤ 152 ∧ r.requestId = requestId := by
  cases h with
  | conflict =>
    refine ⟨?_, rfl⟩
    rw [idempotencyConflict, bodySize_failure]
    decide
  | internal =>
    refine ⟨?_, rfl⟩
    rw [internalError, bodySize_failure]
    decide
  | keyRunning =>
    refine ⟨?_, rfl⟩
    rw [keyInProgress, bodySize_failure]
    decide
  | requestRunning =>
    refine ⟨?_, rfl⟩
    rw [requestInProgress, bodySize_failure]
    decide

/-- The response and the event of a call that has returned. -/
theorem verdict_size {requestId : String} {result : Except ApplicationError Domain.Project}
    {r : ServerResponse} {payload : DaemonEventPayload} (h : Verdict requestId result r payload)
    (small : ∀ p, result = .ok p → jsonSize (snapshotOf p) ≤ limits.project) :
    r.bodySize ≤ limits.project + 152 ∧ r.requestId = requestId ∧
      jsonSize payload ≤ textSize requestId + limits.project + 122 := by
  cases h with
  | opened p returned =>
    have project := small p returned
    rw [bodySize_success, jsonSize_projectOpened, jsonSize_opened]
    exact ⟨by omega, rfl, by omega⟩
  | cancelled =>
    have text : jsonSize ErrorCode.operationCancelled +
        textSize "Project opening was cancelled" = 51 := by decide
    rw [bodySize_failure, jsonSize_cancelled]
    exact ⟨by omega, rfl, by omega⟩
  | failed e =>
    have text := classify_size e
    rw [bodySize_failure, jsonSize_failed]
    exact ⟨by omega, rfl, by omega⟩

omit [StateRepository σ] in
theorem replies_bodySize (bounded : Bounded service.streamId limits w)
    (small : smallStep service limits w a w') {r : ServerResponse}
    (h : Replies service.streamId w a r) :
    r.bodySize ≤ actionEcho a + limits.project + textSize service.streamId + 152 := by
  cases h with
  | health request method =>
    have result : jsonSize (ResponsePayload.health .ready PROTOCOL_VERSION) = 54 := by decide
    rw [bodySize_success, result]
    omega
  | subscription request method =>
    rw [bodySize_success, jsonSize_subscriptionReady]
    omega
  | refused request refusal =>
    have fixed := (refusal_bodySize refusal).1
    omega
  | replayed request key completed keyed known same =>
    have kept := bounded.completed key completed known
    rw [fingerprintEcho_of same] at kept
    exact kept
  | cancellation request target outcome method =>
    have text := jsonSize_outcome outcome
    rw [bodySize_success, jsonSize_cancellation]
    simp only [actionEcho, method, RequestMethod.echo]
    omega
  | finished flag call result running returned verdict =>
    have size := (verdict_size verdict fun p same =>
      small call p running (same ▸ returned)).1
    omega
  | lost flag call running =>
    have refused : Refusal call.request.requestId (internalError call.request.requestId) := .internal
    have fixed := (refusal_bodySize refused).1
    omega

omit [StateRepository σ] in
theorem echo_of_small (frugal : service.daemon.requests.Frugal) {request : ClientRequest}
    (small : smallStep service limits w (.dispatch request) w') :
    textSize request.requestId + request.method.echo ≤ limits.request := by
  obtain ⟨frame, decoded, short⟩ := small
  have echo := echo_le_of_frame frugal decoded
  unfold ClientRequest.echo at echo
  omega

omit [StateRepository σ] in
/-- The id in a response, and the strings next to it. -/
theorem replies_echo (frugal : service.daemon.requests.Frugal)
    (bounded : Bounded service.streamId limits w) (small : smallStep service limits w a w')
    {r : ServerResponse} (h : Replies service.streamId w a r) :
    textSize r.requestId + actionEcho a ≤ limits.request := by
  cases h with
  | health | subscription | replayed | cancellation => exact echo_of_small frugal small
  | refused request refusal =>
    rw [(refusal_bodySize refusal).2]
    exact echo_of_small frugal small
  | finished flag call result running returned verdict =>
    have calls := bounded.calls flag call running
    rw [(verdict_size verdict fun p same => small call p running (same ▸ returned)).2.1]
    exact calls
  | lost flag call running => exact bounded.calls flag call running

omit [StateRepository σ] in
theorem replies_fit (frugal : service.daemon.requests.Frugal)
    (room : limits.Room service.streamId) (bounded : Bounded service.streamId limits w)
    (small : smallStep service limits w a w') {r : ServerResponse}
    (h : Replies service.streamId w a r) : Fits r := by
  have body := replies_bodySize bounded small h
  have echo := replies_echo frugal bounded small h
  unfold Limits.Room ENVELOPE at room
  rw [fits_iff, jsonSize_response]
  omega

omit [StateRepository σ] in
theorem emits_fit (frugal : service.daemon.requests.Frugal)
    (room : limits.Room service.streamId) (bounded : Bounded service.streamId limits w)
    (small : smallStep service limits w a w') {e : DaemonEvent}
    (h : Emits service.streamId w a e) : Fits (StreamMessage.event e) := by
  unfold Limits.Room ENVELOPE at room
  rw [fits_iff, jsonSize_event]
  cases h with
  | started request path sequence method next =>
    have echo := echo_of_small frugal small
    have digits := jsonSize_sequence sequence
    rw [jsonSize_started, jsonSize_version]
    dsimp only
    omega
  | finished flag call result running returned sequence verdict next =>
    have calls := bounded.calls flag call running
    have digits := jsonSize_sequence sequence
    have size := (verdict_size verdict fun p same =>
      small call p running (same ▸ returned)).2.2
    rw [jsonSize_version]
    dsimp only
    omega

omit [StateRepository σ] in
/-- A call in progress was one before, or begins with this step. -/
theorem opens_of_effect {f : FlagId} {c : OpenCall} (effect : World.CallEffect w a w' o)
    (running : w'.opens.lookup f = some c) :
    (∃ before, w.opens.lookup f = some before ∧ before.request = c.request) ∨
      a = .dispatch c.request := by
  cases effect with
  | unrelated same _ => exact .inl ⟨c, same.opens ▸ running, rfl⟩
  | poisoned _ => exact .inl ⟨c, running, rfl⟩
  | begun request key path _ _ _ _ opens _ _ =>
    rw [opens, Assoc.lookup_insert_ite] at running
    split_ifs at running
    · exact .inr (Option.some.inj running ▸ rfl)
    · exact .inl ⟨c, running, rfl⟩
  | undone _ _ _ _ _ _ opens _ _ => exact .inl ⟨c, opens ▸ running, rfl⟩
  | flagged _ _ _ _ _ _ _ _ _ _ _ _ _ opens _ _ => exact .inl ⟨c, opens ▸ running, rfl⟩
  | moved flag call execution was _ =>
    rcases World.lookup_advance running with ⟨rfl, rfl⟩ | ⟨_, before⟩
    · exact .inl ⟨call, was, rfl⟩
    · exact .inl ⟨c, before, rfl⟩
  | finished flag call _ _ _ opens _ _ =>
    rw [opens, Assoc.lookup_erase_ite] at running
    split_ifs at running
    exact .inl ⟨c, running, rfl⟩

theorem step_bounded (frugal : service.daemon.requests.Frugal)
    (room : limits.Room service.streamId) (bounded : Bounded service.streamId limits w)
    (small : smallStep service limits w a w') (hs : w.step service.streamId a = some (w', o)) :
    Bounded service.streamId limits w' := by
  have speaks := World.step_speaks hs
  constructor
  · intro f c running
    rcases opens_of_effect (World.step_effect hs) running with ⟨before, was, same⟩ | ⟨rfl⟩
    · exact same ▸ bounded.calls f before was
    · have echo := echo_of_small frugal small
      omega
  · intro key m known
    rcases speaks.completed key m known with before | ⟨said, fingerprints⟩
    · exact bounded.completed key m before
    · have body := replies_bodySize bounded small (speaks.response _ said)
      have echo : actionEcho a ≤ fingerprintEcho m.fingerprint := by
        cases a with
        | dispatch request => exact Nat.le_of_eq (fingerprintEcho_of fingerprints).symm
        | _ => exact Nat.zero_le _
      omega
  · intro ch m mem
    rcases speaks.queued ch m mem with ⟨c, before⟩ | ⟨e, emitted, rfl⟩
    · exact bounded.queued c m before
    · exact emits_fit frugal room bounded small (speaks.events e emitted)

theorem run_bounded {w₀ : World σ} {tr : List (Action × Output)}
    (frugal : service.daemon.requests.Frugal) (room : limits.Room service.streamId)
    (start : Started w₀)
    (run : (session σ service.streamId).Run (smallStep service limits) w₀ tr w) :
    Bounded service.streamId limits w := by
  refine run.invariant ?_ fun t a u o bounded small hs => step_bounded frugal room bounded small hs
  obtain ⟨project, task, repo, rfl⟩ := start.init
  constructor
  · intro f c running
    exact absurd running (by simp [World.init])
  · intro key m known
    exact absurd known (by simp [World.init, SessionState.new])
  · intro key m known
    cases known

end Bounds

section Handlers

variable {σ : Type} [StateRepository σ] {service : Service} {limits : Limits} {w : World σ}

/-- The length of the JSON of a snapshot. -/
def snapshotSize (streamId : String) (w : World σ) : Nat :=
  textSize streamId + jsonSize w.state.sequence + jsonSize w.state.project +
    ((w.state.active.keys.map fun requestId => textSize requestId + 55).sum +
      (if w.state.active.keys = [] then 2 else 1)) + 98

omit [StateRepository σ] in
theorem snapshot_fits_iff (streamId : String) :
    Fits (StreamMessage.snapshot (w.snapshotLocked streamId)) ↔
      snapshotSize streamId w ≤ MAX_FRAME_BYTES := by
  rw [fits_iff, jsonSize_snapshot]
  unfold World.snapshotLocked snapshotSize
  rw [jsonSize_operations]

/-- `encode_frame` accepts the value. -/
def Encodes {α : Type} (json : SerdeJson α) (v : α) : Prop := ∃ frame, encodeFrame json v = .ok frame

theorem encodes_iff {α : Type} [Serde α] {json : SerdeJson α} (lawful : json.Lawful) (v : α) :
    Encodes json v ↔ Fits v := by
  unfold Encodes
  rw [encodeFrame_lawful lawful]
  split_ifs with fits
  · exact ⟨fun _ => fits, fun _ => ⟨_, rfl⟩⟩
  · exact ⟨nofun, fun small => absurd small fits⟩

theorem encode_of_not_fits {α : Type} [Serde α] {json : SerdeJson α} (lawful : json.Lawful) {v : α}
    (long : ¬ Fits v) : ∃ e, Frame.encode json v = .error e := by
  cases made : Frame.encode json v with
  | ok frame =>
    refine absurd ((encodes_iff lawful v).mp ⟨frameOf frame.payload, ?_⟩) long
    rw [encodeFrame_eq, made]
    rfl
  | error e => exact ⟨e, rfl⟩

/-- What a daemon sends whose session is in this state, and the ways in which its threads end. -/
structure Sends (service : Service) (limits : Limits) (w : World σ) : Prop where
  response : ∀ a w' o r, smallStep service limits w a w' →
    w.step service.streamId a = some (w', o) → o.response = some r → Encodes service.responses r
  event : ∀ a w' o, smallStep service limits w a w' → w.step service.streamId a = some (w', o) →
    ∀ e ∈ o.events, Encodes service.messages (.event e)
  snapshot : Encodes service.messages (.snapshot (w.snapshotLocked service.streamId)) ↔
    snapshotSize service.streamId w ≤ MAX_FRAME_BYTES
  frame : ∀ (h : Handler σ) writes presented frame e, h.session = w →
    frame.length ≤ limits.request + 4 →
    (h.handleAuthenticatedFrame service writes presented frame).1.thread = .done (.ok (.error e)) →
    (h.handleAuthenticatedFrame service writes presented frame).1.session = w
  opening : ∀ (h h' : Handler σ) writes flag a o e, h.session = w →
    h.thread = .opening writes flag → smallStep service limits w a h'.session →
    h.step service (.call a) = some (h', o) → h'.thread ≠ .done (.ok (.error e))
  subscription : ∀ (h : Handler σ) request frame channel text, h.session = w →
    decodeClientRequestFrame service.daemon.requests frame = .ok request →
    frame.length ≤ limits.request + 4 → snapshotSize service.streamId w ≤ MAX_FRAME_BYTES →
    (h.serveSubscription service request).1.thread ≠ .returning channel (.error (.protocol text))
  message : ∀ (h h' : Handler σ) channel o e, h.session = w → h.thread = .receiving channel →
    h.step service .recv = some (h', o) → h'.thread ≠ .returning channel (.error e)

omit [StateRepository σ] in
theorem reply_of_fits (lawful : service.responses.Lawful) {response : ServerResponse}
    (fits : Fits response) (h : Handler σ) (writes : Bool) (e : DaemonError) :
    (h.reply service writes response).thread ≠ .done (.ok (.error e)) := by
  obtain ⟨frame, encoded⟩ := encode_of_fits lawful fits
  unfold Handler.reply
  rw [encoded]
  cases writes <;> simp [Handler.finish]

omit [StateRepository σ] in
/-- A request within the limits is dispatched without an error. -/
theorem dispatchRequest_sends (frugal : service.daemon.requests.Frugal)
    (responses : service.responses.Lawful) (room : limits.Room service.streamId) (h : Handler σ)
    (bounded : Bounded service.streamId limits h.session) {request : ClientRequest}
    (small : smallStep service limits h.session (.dispatch request) h.session) (writes : Bool)
    (e : DaemonError) :
    (h.dispatchRequest service writes request).1.thread ≠ .done (.ok (.error e)) := by
  have speaks : World.Speaks service.streamId h.session (.dispatch request)
      (h.session.dispatch service.streamId request).1
      (h.session.dispatch service.streamId request).2 := World.dispatch_speaks request
  unfold Handler.dispatchRequest
  generalize h.session.dispatch service.streamId request = dispatched at speaks ⊢
  obtain ⟨session, output⟩ := dispatched
  dsimp only
  cases said : output.response with
  | none => exact nofun
  | some r =>
    have fits := replies_fit frugal room bounded small (speaks.response r said)
    exact reply_of_fits responses fits _ writes e

omit [StateRepository σ] in
/-- An error is returned only for a frame that is not dispatched. -/
theorem frame_unchanged (frugal : service.daemon.requests.Frugal)
    (responses : service.responses.Lawful) (room : limits.Room service.streamId) (h : Handler σ)
    (bounded : Bounded service.streamId limits h.session) (writes : Bool) (presented : String)
    {frame : List UInt8} (short : frame.length ≤ limits.request + 4) {e : DaemonError}
    (failed : (h.handleAuthenticatedFrame service writes presented frame).1.thread =
      .done (.ok (.error e))) :
    (h.handleAuthenticatedFrame service writes presented frame).1.session = h.session := by
  unfold Handler.handleAuthenticatedFrame at failed ⊢
  cases read : service.daemon.authenticate (.ok (presented, frame)) with
  | error panic => rfl
  | ok result =>
    cases result with
    | error error => rfl
    | ok request =>
      have decoded : decodeClientRequestFrame service.daemon.requests frame = .ok request := by
        unfold Daemon.authenticate at read
        dsimp only at read
        cases matching : service.daemon.launchToken.matchesHex presented with
        | error panic => simp [matching] at read
        | ok authentic =>
          cases decoded : decodeClientRequestFrame service.daemon.requests frame with
          | error error => cases authentic <;> simp [matching, decoded, Except.mapError] at read
          | ok request' =>
            cases authentic <;>
              simp only [matching, decoded, Except.mapError, Except.ok.injEq, reduceCtorEq] at read
            rw [read]
      simp only [read] at failed
      exact absurd failed (dispatchRequest_sends frugal responses room h bounded
        ⟨frame, decoded, short⟩ writes e)

theorem opening_sends (frugal : service.daemon.requests.Frugal)
    (responses : service.responses.Lawful) (room : limits.Room service.streamId) {h h' : Handler σ}
    (bounded : Bounded service.streamId limits h.session) {writes : Bool} {flag : FlagId}
    {a : Action} {o : Output} (here : h.thread = .opening writes flag)
    (small : smallStep service limits h.session a h'.session)
    (hs : h.step service (.call a) = some (h', o)) (e : DaemonError) :
    h'.thread ≠ .done (.ok (.error e)) := by
  cases Handler.step_moved hs with
  | called writes' flag' a session output there steps silent => simp [there]
  | answered writes' flag' a session output r there steps answer =>
    obtain ⟨rfl, rfl⟩ := Thread.opening.inj (here.symm.trans there)
    have fits := replies_fit frugal room bounded small ((World.step_speaks steps).response r answer)
    exact reply_of_fits responses fits _ writes e

omit [StateRepository σ] in
/-- A subscription is not refused for the length of what it begins with. -/
theorem subscription_sends (frugal : service.daemon.requests.Frugal)
    (responses : service.responses.Lawful) (messages : service.messages.Lawful)
    (room : limits.Room service.streamId) (h : Handler σ) {request : ClientRequest}
    (small : smallStep service limits h.session (.dispatch request) h.session)
    (fits : snapshotSize service.streamId h.session ≤ MAX_FRAME_BYTES) (channel : ChannelId)
    (text : String) :
    (h.serveSubscription service request).1.thread ≠
      .returning channel (.error (.protocol text)) := by
  have ready : Fits (ServerResponse.success request.requestId
      (.subscriptionReady service.streamId)) := by
    have echo := echo_of_small frugal small
    unfold Limits.Room ENVELOPE at room
    rw [fits_iff, jsonSize_response, bodySize_success, jsonSize_subscriptionReady]
    simp only [ServerResponse.success]
    omega
  obtain ⟨first, encoded⟩ := encode_of_fits responses ready
  obtain ⟨second, encoded'⟩ := encode_of_fits messages
    ((snapshot_fits_iff service.streamId).mpr fits)
  unfold Handler.serveSubscription World.subscribe
  split_ifs
  · simp [Handler.finish]
  · simp [encoded, encoded']

theorem message_sends (messages : service.messages.Lawful) {h h' : Handler σ}
    (bounded : Bounded service.streamId limits h.session) {channel : ChannelId} {o : Output}
    (hs : h.step service .recv = some (h', o)) (e : DaemonError) :
    h'.thread ≠ .returning channel (.error e) := by
  cases Handler.step_moved hs with
  | received channel' ch session output message there steps brought =>
    cases message with
    | disconnected => simp [Handler.deliver, Handler.leave]
    | message m =>
      have queued := (World.step_speaks steps).received ch m brought
      obtain ⟨frame, encoded⟩ := encode_of_fits messages (bounded.queued ch m queued)
      simp [Handler.deliver, encoded]

theorem sends_of_bounded (frugal : service.daemon.requests.Frugal)
    (responses : service.responses.Lawful) (messages : service.messages.Lawful)
    (room : limits.Room service.streamId) (bounded : Bounded service.streamId limits w) :
    Sends service limits w := by
  have answers {a : Action} {w' : World σ} {o : Output} {r : ServerResponse}
      (small : smallStep service limits w a w') (hs : w.step service.streamId a = some (w', o))
      (said : o.response = some r) : Fits r :=
    replies_fit frugal room bounded small ((World.step_speaks hs).response r said)
  refine ⟨?_, ?_, ?_, ?_, ?_, ?_, ?_⟩
  · intro a w' o r small hs said
    exact (encodes_iff responses r).mpr (answers small hs said)
  · intro a w' o small hs e emitted
    exact (encodes_iff messages _).mpr
      (emits_fit frugal room bounded small ((World.step_speaks hs).events e emitted))
  · rw [encodes_iff messages, snapshot_fits_iff]
  · rintro h writes presented frame e rfl short failed
    exact frame_unchanged frugal responses room h bounded writes presented short failed
  · rintro h h' writes flag a o e rfl here small hs
    exact opening_sends frugal responses room bounded here small hs e
  · rintro h request frame channel text rfl decoded short fits
    exact subscription_sends frugal responses messages room h ⟨frame, decoded, short⟩ fits channel
      text
  · rintro h h' channel o e rfl _ hs
    exact message_sends messages bounded hs e

/-- In every run within the limits, everything that is sent fits in a frame. -/
theorem frames_fit {w₀ : World σ} {tr : List (Action × Output)}
    (frugal : service.daemon.requests.Frugal) (responses : service.responses.Lawful)
    (messages : service.messages.Lawful) (room : limits.Room service.streamId)
    (start : Started w₀)
    (run : (session σ service.streamId).Run (smallStep service limits) w₀ tr w) :
    Sends service limits w :=
  sends_of_bounded frugal responses messages room (run_bounded frugal room start run)

end Handlers

/-- A cancel request of which the id is the only long part. -/
def cancelOf (requestId : String) : ClientRequest :=
  ⟨PROTOCOL_VERSION,requestId,.cancelRequest "t",some "k"⟩

theorem cancelOf_size (requestId : String) :
    jsonSize (cancelOf requestId) = textSize requestId + 111 := by
  have key : textSize "k" = 3 := by decide
  have target : textSize "t" = 3 := by decide
  rw [cancelOf, jsonSize_cancelRequest, key, target]

/-- Its response on a session without operations. -/
def notFound (requestId : String) : ServerResponse := .success requestId (.cancellation "t" .notFound)

theorem notFound_size (requestId : String) : jsonSize (notFound requestId) = textSize requestId + 123 := by
  have target : textSize "t" = 3 := by decide
  have outcome : jsonSize CancellationOutcome.notFound = 10 := by decide
  rw [jsonSize_response, notFound, bodySize_success, jsonSize_cancellation, target, outcome]
  rfl

theorem decode_cancelOf {requestId : String} (fits : Fits (cancelOf requestId)) :
    decodeClientRequestFrame jsonService.daemon.requests
      (frameOf (utf8 (serialize (cancelOf requestId)).text)) = .ok (cancelOf requestId) := by
  refine decodeClientRequestFrame_ok.mpr ⟨?_, rfl, by simp [cancelOf]⟩
  exact decodeFrame_encoded serdeJson_lawful (by decide) fits

theorem handle_cancelOf {requestId : String} {frame : List UInt8}
    (decoded : decodeClientRequestFrame jsonService.daemon.requests frame = .ok (cancelOf requestId))
    (long : ¬ Fits (notFound requestId)) (h : Handler SqliteStateRepository)
    (session : h.session = World.new) :
    ∃ e, (h.handleAuthenticatedFrame jsonService false zeroToken frame).1.thread =
        .done (.ok (.error e)) ∧
      (h.handleAuthenticatedFrame jsonService false zeroToken
        frame).1.session.state.completed.lookup "k" =
        some ⟨.cancelRequest "t",notFound requestId⟩ := by
  have token : jsonService.daemon.launchToken.matchesHex zeroToken = .ok true := by decide +kernel
  have response : (World.new.dispatch jsonService.streamId (cancelOf requestId) :
      World SqliteStateRepository × Output).2.response = some (notFound requestId) := rfl
  have completed : (World.new.dispatch jsonService.streamId (cancelOf requestId) :
      World SqliteStateRepository × Output).1.state.completed.lookup "k" =
      some ⟨.cancelRequest "t",notFound requestId⟩ := rfl
  have authentic : jsonService.daemon.authenticate (.ok (zeroToken, frame)) =
      .ok (.ok (cancelOf requestId)) := by
    simp only [Daemon.authenticate, token, decoded, Except.mapError]
  obtain ⟨error, refused⟩ : ∃ error, Frame.encode jsonService.responses (notFound requestId) =
      .error error := encode_of_not_fits serdeJson_lawful long
  unfold Handler.handleAuthenticatedFrame Handler.dispatchRequest
  simp only [authentic, session, response, Handler.reply, refused]
  exact ⟨_, rfl, completed⟩

theorem textSize_replicate (n : Nat) : textSize (String.ofList (List.replicate n 'a')) = n + 2 := by
  have plain : escape 'a' = ['a'] := by decide
  have middle : width ((List.replicate n 'a').flatMap escape) = n := by
    induction n with
    | zero => rfl
    | succ n ih =>
      have one : Char.utf8Size 'a' = 1 := rfl
      rw [List.replicate_succ, List.flatMap_cons, width_append, ih, plain, width_cons, one,
        width_nil, Nat.add_comm]
  have one : quote.utf8Size = 1 := rfl
  simp only [textSize, quoted, String.toList_ofList, List.cons_append, width_cons, width_append,
    middle, width_nil, one]
  omega

/-- A request of the longest frame, whose response is twelve bytes longer. -/
theorem frames_fit_not_limited :
    ∃ frame request, decodeClientRequestFrame jsonService.daemon.requests frame = .ok request ∧
      ∀ h : Handler SqliteStateRepository, h.session = World.new → ∃ e,
        (h.handleAuthenticatedFrame jsonService false zeroToken frame).1.thread =
          .done (.ok (.error e)) ∧
        (h.handleAuthenticatedFrame jsonService false zeroToken
          frame).1.session.state.completed.lookup "k" ≠
          h.session.state.completed.lookup "k" := by
  have size := textSize_replicate 8388495
  generalize String.ofList (List.replicate 8388495 'a') = requestId at size
  have max : MAX_FRAME_BYTES = 8388608 := rfl
  have fits : Fits (cancelOf requestId) := by
    rw [fits_iff, cancelOf_size]
    omega
  have long : ¬ Fits (notFound requestId) := by
    rw [fits_iff, notFound_size]
    omega
  refine ⟨_, _, decode_cancelOf fits, fun h session => ?_⟩
  obtain ⟨e, failed, remembered⟩ := handle_cancelOf (decode_cancelOf fits) long h session
  refine ⟨e, failed, ?_⟩
  rw [remembered, session]
  exact nofun

/-- A session that has answered a short cancel request. -/
theorem frames_fit_cancelled :
    Sends jsonService ⟨200,1000⟩
      (World.new.dispatch "s" (cancelOf "a") : World SqliteStateRepository × Output).1 := by
  have room : Limits.Room ⟨200,1000⟩ jsonService.streamId := by
    unfold Limits.Room
    decide
  have size : jsonSize (cancelOf "a") = 114 := (cancelOf_size "a").trans (by decide)
  have fits : Fits (cancelOf "a") := by
    rw [fits_iff, size]
    decide
  have small : smallStep jsonService ⟨200,1000⟩ (World.new : World SqliteStateRepository)
      (.dispatch (cancelOf "a")) (World.new.dispatch "s" (cancelOf "a")).1 := by
    refine ⟨_, decode_cancelOf fits, ?_⟩
    rw [frameOf_length, length_text]
    unfold jsonSize at size
    dsimp only
    omega
  exact frames_fit serdeJson_frugal serdeJson_lawful serdeJson_lawful room .new (.one small rfl)

end Kesharon.Server

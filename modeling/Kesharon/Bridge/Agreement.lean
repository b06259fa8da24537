import Kesharon.Bridge.Shown
import Kesharon.Daemon.Replies
import Kesharon.Daemon.Storage
import Kesharon.Protocol.Codec
import Kesharon.Server.Handler

namespace Kesharon.Bridge

open Framework Application Daemon Host Protocol Script

section Guards

variable {value : Script}

theorem isErrorCode_literal (c : ErrorCode) : isErrorCode (.string (errorLiteral c)) = true := by
  cases c <;> rfl

theorem isProjectSnapshot_of_shows {p : ProjectSnapshot} (h : ShowsProject value p) :
    isProjectSnapshot value = true := by
  simp [isProjectSnapshot, h.record, h.id, h.displayName, h.canonicalRoot, h.trusted, isString,
    isBoolean]

theorem isDaemonErrorPayload_of_shows {e : ErrorPayload} (h : ShowsError value e) :
    isDaemonErrorPayload value = true := by
  simp [isDaemonErrorPayload, h.record, h.code, h.message, isErrorCode_literal, isString]

/-- The version of a health result is the current one. -/
def Current : ResponsePayload → Prop
  | .health _ version => version = Protocol.PROTOCOL_VERSION
  | _ => True

theorem isResponsePayload_of_shows {r : ResponsePayload} (current : Current r)
    (h : ShowsResult value r) : isResponsePayload value = true := by
  cases h with
  | health status version record type health protocolVersion =>
    obtain rfl : version = Protocol.PROTOCOL_VERSION := current
    cases status <;>
      simp [isResponsePayload, record, type, health, protocolVersion, healthLiteral, isText] <;> rfl
  | projectOpened p record type project =>
    simp [isResponsePayload, record, type, isProjectSnapshot_of_shows project]
  | cancellation target outcome record type targetRequestId result =>
    cases outcome <;>
      simp [isResponsePayload, record, type, targetRequestId, result, outcomeLiteral, isString,
        isText]
  | subscriptionReady id record type streamId =>
    simp [isResponsePayload, record, type, streamId, isString]

theorem isOperationSnapshot_of_shows {o : OperationSnapshot} (h : ShowsOperation value o) :
    isOperationSnapshot value = true := by
  obtain ⟨requestId, ⟨⟩, ⟨⟩⟩ := o
  simp [isOperationSnapshot, h.record, h.requestId, h.kind, h.status, kindLiteral, statusLiteral,
    isString, isText]

theorem all_of_shows {items : List Script} {os : List OperationSnapshot}
    (h : List.Forall₂ ShowsOperation items os) : items.all isOperationSnapshot = true := by
  induction h with
  | nil => rfl
  | cons first _ ih => simp [isOperationSnapshot_of_shows first, ih]

theorem isWorkspaceSnapshot_of_shows {s : WorkspaceSnapshot}
    (safe : s.lastSequence.toNat ≤ maxSafeInteger) (h : ShowsSnapshot value s) :
    isWorkspaceSnapshot value = true := by
  have project : (value.prop "project").isNull = true ∨
      isProjectSnapshot (value.prop "project") = true := by
    have shown := h.project
    cases present : s.project with
    | none =>
      rw [present] at shown
      exact .inl (congrArg isNull shown)
    | some p =>
      rw [present] at shown
      exact .inr (isProjectSnapshot_of_shows shown)
  obtain ⟨items, operations, shown⟩ := h.activeOperations
  have every := all_of_shows shown
  unfold isWorkspaceSnapshot
  rw [h.record, h.streamId, h.lastSequence, operations, isSafeInteger_of_le safe,
    isAtLeast_of_le (Nat.zero_le _)]
  simp [isString, isArrayOf, every, project]

theorem isEventPayload_of_shows {p : DaemonEventPayload} (h : ShowsPayload value p) :
    isEventPayload value = true := by
  cases h with
  | operationStarted r k record type requestId kind =>
    cases k
    simp [isEventPayload, record, type, requestId, kind, kindLiteral, isString, isText]
  | projectOpened r p record type requestId project =>
    simp [isEventPayload, record, type, requestId, isProjectSnapshot_of_shows project, isString]
  | operationCancelled r record type requestId =>
    simp [isEventPayload, record, type, requestId, isString]
  | operationFailed r c m record type requestId code message =>
    simp [isEventPayload, record, type, requestId, code, message, isErrorCode_literal, isString]

/-- Responses with one of the two fields, and with the current version in a health result. -/
inductive Proper : ServerResponse → Prop where
  | success (requestId : String) {result : ResponsePayload} (current : Current result) :
      Proper (.success requestId result)
  | failure (requestId : String) (code : ErrorCode) (message : String) :
      Proper (.failure requestId code message)

theorem Proper.withRequestId {r : ServerResponse} (h : Proper r) (requestId : String) :
    Proper (r.withRequestId requestId) := by
  cases h with
  | success _ current => exact .success requestId current
  | failure _ code message => exact .failure requestId code message

theorem Proper.version {r : ServerResponse} (h : Proper r) :
    r.protocolVersion = Protocol.PROTOCOL_VERSION := by
  cases h <;> rfl

theorem isNatural_version : (number (Rat.ofInt Protocol.PROTOCOL_VERSION.toNat)).isNatural
    PROTOCOL_VERSION = true := by
  decide

theorem decodeDaemonResponse_of_shows {r : ServerResponse} (proper : Proper r)
    (h : ShowsResponse value r) : decodeDaemonResponse value = .ok value := by
  have version : requireProtocolVersion value = .ok () := by
    unfold requireProtocolVersion
    rw [h.protocolVersion, proper.version, isNatural_version]
    rfl
  unfold decodeDaemonResponse
  rw [h.record, version, h.requestId]
  cases proper with
  | success requestId current =>
    have result := isResponsePayload_of_shows current h.result
    have error : value.prop "error" = .null := h.error
    simp [result, error, isString, isNull]
  | failure requestId code message =>
    have result : value.prop "result" = .null := h.result
    have error := isDaemonErrorPayload_of_shows h.error
    have guard : isResponsePayload .null = false := rfl
    simp [result, error, guard, isString, isNull]

theorem decodeStreamMessage_of_shows {m : StreamMessage} (built : m.Built) (safe : Safe m)
    (h : ShowsMessage value m) : decodeStreamMessage value = .ok value := by
  cases h with
  | snapshot s record messageType shows =>
    have snapshot := isWorkspaceSnapshot_of_shows safe shows
    simp [decodeStreamMessage, record, messageType, snapshot, isText]
  | event e record messageType shows =>
    obtain ⟨version, positive⟩ : e.protocolVersion = Protocol.PROTOCOL_VERSION ∧ e.sequence ≠ 0 := by
      cases built with
      | event new =>
        unfold DaemonEvent.new at new
        split_ifs at new with zero
        obtain rfl := Except.ok.inj new
        exact ⟨rfl, zero⟩
    have above : 0 < e.sequence.toNat := by
      refine Nat.pos_of_ne_zero fun zero => positive ?_
      exact UInt64.toNat_inj.mp zero
    have payload := isEventPayload_of_shows shows.payload
    unfold decodeStreamMessage
    rw [shows.record, shows.protocolVersion, shows.streamId, shows.sequence, version,
      isNatural_version, isSafeInteger_of_le safe, isAbove_of_lt above, payload]
    simp [record, messageType, isText, isString]

end Guards

section Updates

variable (numerals : String → Rat)

/-- The decoder accepts the JSON of a response, and returns an object that shows it. -/
def AgreesOnResponse (r : ServerResponse) : Prop :=
  ∃ value, decodeDaemonResponse (ofJson numerals (serialize r)) = .ok value ∧
    ShowsResponse value r

/-- The decoder accepts the JSON of an update, and the bridge hands on an object that shows it. -/
def AgreesOnUpdate (u : DaemonStreamUpdate) : Prop :=
  ∃ value, decodeDaemonStreamUpdate (ofJson numerals u.toJson) = .ok value ∧
    onMessage (ofJson numerals u.toJson) = some value ∧ ShowsUpdate value u

theorem agreesOnResponse_of_proper {r : ServerResponse} (proper : Proper r) :
    AgreesOnResponse numerals r := by
  have shows := shows_response numerals r
  exact ⟨_, decodeDaemonResponse_of_shows proper shows, shows⟩

variable {numerals} in
theorem agreesOnUpdate_of_decoded {u : DaemonStreamUpdate} (value : Script)
    (decoded : decodeDaemonStreamUpdate (ofJson numerals u.toJson) = .ok value)
    (shows : ShowsUpdate value u) : AgreesOnUpdate numerals u := by
  refine ⟨value, decoded, ?_, shows⟩
  simp [onMessage, decoded]

theorem agreesOnUpdate_message {m : StreamMessage} (built : m.Built) (safe : Safe m) :
    AgreesOnUpdate numerals (.message m) := by
  have shows := shows_message numerals safe
  have decoded := decodeStreamMessage_of_shows built safe shows
  refine agreesOnUpdate_of_decoded
    (.object [("type", .string "message"), ("message", ofJson numerals (serialize m))]) ?_ ?_
  · simp [decodeDaemonStreamUpdate, DaemonStreamUpdate.toJson, ofJson, ofFields, prop, isRecord,
      isString, isText, decoded]
  · exact .message m rfl (by simp [prop]) (by simpa [prop] using shows)

theorem agreesOnUpdate_reconnecting : AgreesOnUpdate numerals .reconnecting := by
  refine agreesOnUpdate_of_decoded (.object [("type", .string "reconnecting")]) ?_ ?_
  · simp [decodeDaemonStreamUpdate, DaemonStreamUpdate.toJson, ofJson, ofFields, prop, isRecord,
      isString, isText]
  · exact .reconnecting rfl (by simp [prop])

theorem agreesOnUpdate_unavailable (m : String) : AgreesOnUpdate numerals (.unavailable m) := by
  refine agreesOnUpdate_of_decoded
    (.object [("type", .string "unavailable"), ("message", .string m)]) ?_ ?_
  · simp [decodeDaemonStreamUpdate, DaemonStreamUpdate.toJson, ofJson, ofFields, prop, isRecord,
      isString, isText]
  · exact .unavailable m rfl (by simp [prop]) (by simp [prop])

end Updates

section Runs

variable {σ : Type} [StateRepository σ] {streamId : String} {w₀ w w' : World σ} {a : Action}
variable {o : Output} {tr : List (Action × Output)}

/-- What is kept for replays is proper. -/
def Replayable (w : World σ) : Prop :=
  ∀ key m, w.state.completed.lookup key = some m → Proper m.response

omit [StateRepository σ] in
theorem proper_of_replies {r : ServerResponse} (replayable : Replayable w)
    (h : Replies streamId w a r) : Proper r := by
  cases h with
  | health request method => exact .success _ rfl
  | subscription request method => exact .success _ trivial
  | refused request refusal =>
    cases refusal <;> exact .failure _ _ _
  | replayed request key completed keyed known =>
    exact (replayable key completed known).withRequestId request.requestId
  | cancellation request target outcome method => exact .success _ trivial
  | finished flag call result running returned verdict =>
    cases verdict with
    | opened p _ => exact .success _ trivial
    | cancelled => exact .failure _ _ _
    | failed e => exact .failure _ _ _
  | lost flag call running => exact .failure _ _ _

omit [StateRepository σ] in
theorem built_of_emits {e : DaemonEvent} (h : Emits streamId w a e) :
    (StreamMessage.event e).Built := by
  have built {sequence : UInt64} {payload : DaemonEventPayload}
      (next : checkedSucc w.state.sequence = some sequence) :
      (StreamMessage.event ⟨Protocol.PROTOCOL_VERSION,streamId,sequence,payload⟩).Built := by
    refine .event (if_neg ?_)
    rintro rfl
    have step := (checkedSucc_eq_some.mp next).2
    exact absurd step.symm (Nat.succ_ne_zero _)
  cases h with
  | started request path sequence method next => exact built next
  | finished flag call result running returned sequence verdict next => exact built next

/-- The updates a host can send of a session: its snapshot, its events with safe numbers, and the
two without a message. The operations of a snapshot are the keys of a map, in any order. -/
inductive Wraps (streamId : String) (tr : List (Action × Output)) (w : World σ) :
    DaemonStreamUpdate → Prop where
  | snapshot (operations : List OperationSnapshot)
      (listing : operations.Perm (w.snapshotLocked streamId).activeOperations)
      (safe : w.state.sequence.toNat ≤ maxSafeInteger) :
      Wraps streamId tr w
        (.message (.snapshot { w.snapshotLocked streamId with activeOperations := operations }))
  | event {a : Action} {o : Output} {e : DaemonEvent} (taken : (a, o) ∈ tr)
      (emitted : e ∈ o.events) (safe : e.sequence.toNat ≤ maxSafeInteger) :
      Wraps streamId tr w (.message (.event e))
  | reconnecting : Wraps streamId tr w .reconnecting
  | unavailable (message : String) : Wraps streamId tr w (.unavailable message)

theorem step_replayable (h : Replayable w) (hs : w.step streamId a = some (w', o)) :
    Replayable w' := by
  have speaks := World.step_speaks hs
  intro key m known
  rcases speaks.completed key m known with before | ⟨said, _⟩
  · exact h key m before
  · exact proper_of_replies h (speaks.response _ said)

theorem run_replayable (start : Started w₀)
    (run : (session σ streamId).Run Machine.anyStep w₀ tr w) : Replayable w := by
  refine run.invariant ?_ fun t a u o kept _ hs => step_replayable kept hs
  obtain ⟨project, task, repo, rfl⟩ := start.init
  intro key m known
  exact absurd known (by simp [World.init, SessionState.new])

/-- What a step of a run says is proper. -/
theorem run_speaks (start : Started w₀)
    (run : (session σ streamId).Run Machine.anyStep w₀ tr w) (taken : (a, o) ∈ tr) :
    (∀ r, o.response = some r → Proper r) ∧ ∀ e ∈ o.events, (StreamMessage.event e).Built := by
  obtain ⟨before, after, rfl⟩ := List.append_of_mem taken
  obtain ⟨t, t', front, _, hs, _⟩ := run.at_step
  have speaks := World.step_speaks hs
  constructor
  · intro r said
    exact proper_of_replies (run_replayable start front) (speaks.response r said)
  · intro e emitted
    exact built_of_emits (speaks.events e emitted)

/-- Over every run of a session, the decoders accept the JSON of every response and of every
update that wraps a snapshot or an event with a safe number, and what they return shows it. -/
theorem decoders_agree (numerals : String → Rat) (start : Started w₀)
    (run : (session σ streamId).Run Machine.anyStep w₀ tr w) :
    (∀ a o r, (a, o) ∈ tr → o.response = some r → AgreesOnResponse numerals r) ∧
      (∀ requestId, AgreesOnResponse numerals (Server.Handler.busyResponse requestId)) ∧
      ∀ u, Wraps streamId tr w u → AgreesOnUpdate numerals u := by
  refine ⟨?_, ?_, ?_⟩
  · intro a o r taken said
    exact agreesOnResponse_of_proper numerals ((run_speaks start run taken).1 r said)
  · intro requestId
    exact agreesOnResponse_of_proper numerals (.failure requestId _ _)
  · intro u wraps
    cases wraps with
    | snapshot operations listing safe => exact agreesOnUpdate_message numerals (.snapshot _) safe
    | event taken emitted safe =>
      exact agreesOnUpdate_message numerals ((run_speaks start run taken).2 _ emitted) safe
    | reconnecting => exact agreesOnUpdate_reconnecting numerals
    | unavailable message => exact agreesOnUpdate_unavailable numerals message

end Runs

/-- A session while a project is being opened. -/
theorem decoders_agree_opening :
    ∃ tr w, (session SqliteStateRepository "s").Run Machine.anyStep World.new tr w ∧
      w.state.active.lookup "a" = some ⟨0⟩ ∧
      AgreesOnUpdate (fun _ => Rat.ofInt 0) (.message (.snapshot (w.snapshotLocked "s"))) := by
  have run := Machine.run_of_exec_isSome (session SqliteStateRepository "s") Machine.anyStep
    World.new [
    .dispatch ⟨Protocol.PROTOCOL_VERSION,"a",.openProject "/p",some "k"⟩,
    .firstCheck 0] (by decide +kernel)
  refine ⟨_, _, run, by decide +kernel, ?_⟩
  obtain ⟨_, _, updates⟩ := decoders_agree (fun _ => Rat.ofInt 0) .new run
  exact updates _ (.snapshot _ (.refl _) (by decide +kernel))

end Kesharon.Bridge

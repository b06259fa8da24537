import Kesharon.Bridge.Agreement

namespace Kesharon.Bridge

open Framework Host Protocol Script

section Accepted

variable {value : Script}

theorem shows_of_isErrorCode (h : isErrorCode value = true) :
    ∃ c, value = .string (errorLiteral c) := by
  unfold isErrorCode at h
  simp only [Bool.or_eq_true, isText_iff] at h
  rcases h with (((((rfl | rfl) | rfl) | rfl) | rfl) | rfl) | rfl
  · exact ⟨.invalidRequest, rfl⟩
  · exact ⟨.notGitRepository, rfl⟩
  · exact ⟨.projectPathUnavailable, rfl⟩
  · exact ⟨.operationCancelled, rfl⟩
  · exact ⟨.requestInProgress, rfl⟩
  · exact ⟨.serverBusy, rfl⟩
  · exact ⟨.internalError, rfl⟩

theorem shows_of_isProjectSnapshot (h : isProjectSnapshot value = true) :
    ∃ p, ShowsProject value p := by
  unfold isProjectSnapshot at h
  simp only [Bool.and_eq_true, isString_iff, isBoolean_iff] at h
  obtain ⟨⟨⟨⟨record, id, hid⟩, name, hname⟩, root, hroot⟩, trusted, htrusted⟩ := h
  exact ⟨⟨id,name,root,trusted⟩, record, hid, hname, hroot, htrusted⟩

theorem shows_of_isDaemonErrorPayload (h : isDaemonErrorPayload value = true) :
    ∃ e, ShowsError value e := by
  unfold isDaemonErrorPayload at h
  simp only [Bool.and_eq_true, isString_iff] at h
  obtain ⟨⟨record, code⟩, message, hmessage⟩ := h
  obtain ⟨c, hcode⟩ := shows_of_isErrorCode code
  exact ⟨⟨c,message⟩, record, hcode, hmessage⟩

theorem shows_of_isOperationSnapshot (h : isOperationSnapshot value = true) :
    ∃ o, ShowsOperation value o := by
  unfold isOperationSnapshot at h
  simp only [Bool.and_eq_true, isString_iff, isText_iff] at h
  obtain ⟨⟨⟨record, requestId, hrequestId⟩, kind⟩, status⟩ := h
  exact ⟨⟨requestId,.openProject,.running⟩, record, hrequestId, kind, status⟩

theorem shows_of_all {items : List Script} (h : items.all isOperationSnapshot = true) :
    ∃ os, List.Forall₂ ShowsOperation items os := by
  induction items with
  | nil => exact ⟨[], .nil⟩
  | cons item items ih =>
    simp only [List.all_cons, Bool.and_eq_true] at h
    obtain ⟨o, first⟩ := shows_of_isOperationSnapshot h.1
    obtain ⟨os, rest⟩ := ih h.2
    exact ⟨o :: os, .cons first rest⟩

/-- A safe integer is a sequence number. -/
theorem sequence_of_safe (safe : value.isSafeInteger = true) (least : value.isAtLeast 0 = true) :
    ∃ n : UInt64, n.toNat ≤ maxSafeInteger ∧ value = .number (Rat.ofInt n.toNat) := by
  obtain ⟨n, small, same⟩ := natural_of_safe safe least
  have fits : n < 2 ^ 64 := Nat.lt_of_le_of_lt small (by decide)
  have back : (UInt64.ofNat n).toNat = n := UInt64.toNat_ofNat_of_lt' fits
  exact ⟨UInt64.ofNat n, by rw [back]; exact small, by rw [back]; exact same⟩

theorem shows_of_isWorkspaceSnapshot (h : isWorkspaceSnapshot value = true) :
    ∃ s : WorkspaceSnapshot, s.lastSequence.toNat ≤ maxSafeInteger ∧ ShowsSnapshot value s := by
  unfold isWorkspaceSnapshot at h
  simp only [Bool.and_eq_true, Bool.or_eq_true, isString_iff, isNull_iff, isArrayOf_iff] at h
  obtain ⟨⟨⟨⟨⟨record, streamId, hstreamId⟩, safe⟩, least⟩, project⟩, items, array, all⟩ := h
  obtain ⟨n, small, sequence⟩ := sequence_of_safe safe least
  obtain ⟨os, operations⟩ := shows_of_all all
  have shown : ∃ p, ShowsOption ShowsProject (value.prop "project") p := by
    rcases project with absent | present
    · exact ⟨none, absent⟩
    · obtain ⟨p, shows⟩ := shows_of_isProjectSnapshot present
      exact ⟨some p, shows⟩
  obtain ⟨p, shows⟩ := shown
  exact ⟨⟨streamId,n,p,os⟩, small, record, hstreamId, sequence, shows, items, array, operations⟩

theorem shows_of_isEventPayload (h : isEventPayload value = true) : ∃ p, ShowsPayload value p := by
  unfold isEventPayload at h
  split_ifs at h with guard
  have both : value.isRecord = true ∧ (value.prop "requestId").isString = true := by
    simpa using guard
  obtain ⟨record, named⟩ := both
  obtain ⟨requestId, hrequestId⟩ := isString_iff.mp named
  split at h
  next type => exact ⟨_, .operationStarted requestId .openProject record type hrequestId
    (isText_iff.mp h)⟩
  next type =>
    obtain ⟨p, project⟩ := shows_of_isProjectSnapshot h
    exact ⟨_, .projectOpened requestId p record type hrequestId project⟩
  next type => exact ⟨_, .operationCancelled requestId record type hrequestId⟩
  next type =>
    rw [Bool.and_eq_true] at h
    obtain ⟨c, code⟩ := shows_of_isErrorCode h.1
    obtain ⟨m, message⟩ := isString_iff.mp h.2
    exact ⟨_, .operationFailed requestId c m record type hrequestId code message⟩
  next => cases h

theorem shows_of_isResponsePayload (h : isResponsePayload value = true) :
    ∃ r, Current r ∧ ShowsResult value r := by
  unfold isResponsePayload at h
  split_ifs at h with guard
  have record : value.isRecord = true := by simpa using guard
  split at h
  next type =>
    simp only [Bool.and_eq_true, Bool.or_eq_true, isText_iff, isNatural_iff] at h
    have status : ∃ s, value.prop "status" = .string (healthLiteral s) := by
      rcases h.1 with ready | degraded
      · exact ⟨.ready, ready⟩
      · exact ⟨.degraded, degraded⟩
    obtain ⟨s, health⟩ := status
    exact ⟨.health s Protocol.PROTOCOL_VERSION, rfl,
      .health s Protocol.PROTOCOL_VERSION record type health h.2⟩
  next type =>
    obtain ⟨p, project⟩ := shows_of_isProjectSnapshot h
    exact ⟨.projectOpened p, trivial, .projectOpened p record type project⟩
  next type =>
    simp only [Bool.and_eq_true, Bool.or_eq_true, isText_iff, isString_iff] at h
    obtain ⟨⟨target, named⟩, outcome⟩ := h
    have known : ∃ o, value.prop "outcome" = .string (outcomeLiteral o) := by
      rcases outcome with (accepted | finished) | missing
      · exact ⟨.accepted, accepted⟩
      · exact ⟨.alreadyFinished, finished⟩
      · exact ⟨.notFound, missing⟩
    obtain ⟨o, result⟩ := known
    exact ⟨.cancellation target o, trivial, .cancellation target o record type named result⟩
  next type =>
    obtain ⟨id, streamId⟩ := isString_iff.mp h
    exact ⟨.subscriptionReady id, trivial, .subscriptionReady id record type streamId⟩
  next => cases h

theorem version_of_require (h : requireProtocolVersion value = .ok ()) :
    value.prop "protocolVersion" = .number (Rat.ofInt PROTOCOL_VERSION) := by
  unfold requireProtocolVersion at h
  by_cases current : (value.prop "protocolVersion").isNatural PROTOCOL_VERSION = true
  · exact isNatural_iff.mp current
  · rw [if_neg current] at h
    split at h <;> cases h

/-- What `decodeDaemonResponse` accepts is a response, and is returned as it is. -/
theorem shows_of_decodeDaemonResponse {accepted : Script}
    (h : decodeDaemonResponse value = .ok accepted) :
    accepted = value ∧ ∃ r, Proper r ∧ ShowsResponse value r := by
  unfold decodeDaemonResponse at h
  by_cases record : value.isRecord = true
  · rw [if_neg (by simp [record])] at h
    cases required : requireProtocolVersion value with
    | error error =>
      rw [required] at h
      cases h
    | ok u =>
      have version := version_of_require required
      rw [required] at h
      dsimp only at h
      split_ifs at h with unnamed success failure
      · obtain ⟨requestId, named⟩ := isString_iff.mp (by simpa using unnamed)
        rw [Bool.and_eq_true, isNull_iff] at success
        obtain ⟨result, current, shows⟩ := shows_of_isResponsePayload success.2
        exact ⟨(Except.ok.inj h).symm, _, .success requestId current,
          record, version, named, shows, success.1⟩
      · obtain ⟨requestId, named⟩ := isString_iff.mp (by simpa using unnamed)
        rw [Bool.and_eq_true, isNull_iff] at failure
        obtain ⟨⟨code, message⟩, shows⟩ := shows_of_isDaemonErrorPayload failure.2
        exact ⟨(Except.ok.inj h).symm, _, .failure requestId code message,
          record, version, named, failure.1, shows⟩
  · rw [if_pos (by simpa using record)] at h
    cases h

/-- What `decodeStreamMessage` accepts is a message with a safe sequence. -/
theorem shows_of_decodeStreamMessage {accepted : Script}
    (h : decodeStreamMessage value = .ok accepted) :
    accepted = value ∧ ∃ m, m.Built ∧ Safe m ∧ ShowsMessage value m := by
  unfold decodeStreamMessage at h
  split_ifs at h with guard snapshot event
  · have record : value.isRecord = true := by simpa using guard
    rw [Bool.and_eq_true, isText_iff] at snapshot
    obtain ⟨s, safe, shows⟩ := shows_of_isWorkspaceSnapshot snapshot.2
    exact ⟨(Except.ok.inj h).symm, _, .snapshot s, safe, .snapshot s record snapshot.1 shows⟩
  · have record : value.isRecord = true := by simpa using guard
    simp only [Bool.and_eq_true, isText_iff, isNatural_iff, isString_iff] at event
    obtain ⟨⟨⟨⟨⟨⟨messageType, inner⟩, version⟩, id, streamId⟩, safe⟩, above⟩, payload⟩ := event
    obtain ⟨n, small, sequence⟩ := sequence_of_safe safe (isAtLeast_of_isAbove above)
    obtain ⟨p, shows⟩ := shows_of_isEventPayload payload
    have positive : n ≠ 0 := by
      rw [sequence, isAbove_zero_iff] at above
      intro zero
      subst zero
      exact absurd above (by decide)
    have new : DaemonEvent.new id n p = .ok ⟨Protocol.PROTOCOL_VERSION,id,n,p⟩ := by
      unfold DaemonEvent.new
      rw [if_neg positive]
    exact ⟨(Except.ok.inj h).symm, _, .event new, small,
      .event _ record messageType ⟨inner,version,streamId,sequence,shows⟩⟩

theorem decodeDaemonResponse_iff (accepted : Script) :
    decodeDaemonResponse value = .ok accepted ↔
      accepted = value ∧ ∃ r, Proper r ∧ ShowsResponse value r := by
  constructor
  · exact shows_of_decodeDaemonResponse
  · rintro ⟨rfl, r, proper, shows⟩
    exact decodeDaemonResponse_of_shows proper shows

theorem decodeStreamMessage_iff (accepted : Script) :
    decodeStreamMessage value = .ok accepted ↔
      accepted = value ∧ ∃ m, m.Built ∧ Safe m ∧ ShowsMessage value m := by
  constructor
  · exact shows_of_decodeStreamMessage
  · rintro ⟨rfl, m, built, safe, shows⟩
    exact decodeStreamMessage_of_shows built safe shows

/-- An update with a message that decodes. -/
def Sound : DaemonStreamUpdate → Prop
  | .message m => m.Built ∧ Safe m
  | _ => True

/-- What `decodeDaemonStreamUpdate` accepts is an update, and what it builds is the same one. -/
theorem shows_of_decodeDaemonStreamUpdate {built : Script}
    (h : decodeDaemonStreamUpdate value = .ok built) :
    ∃ u, Sound u ∧ ShowsUpdate value u ∧ ShowsUpdate built u := by
  unfold decodeDaemonStreamUpdate at h
  split_ifs at h with guard message reconnecting unavailable
  · have both : value.isRecord = true ∧ (value.prop "type").isString = true := by
      simpa using guard
    cases decoded : decodeStreamMessage (value.prop "message") with
    | error error =>
      rw [decoded] at h
      cases h
    | ok accepted =>
      rw [decoded] at h
      obtain rfl := Except.ok.inj h
      obtain ⟨rfl, m, built, safe, shows⟩ := shows_of_decodeStreamMessage decoded
      exact ⟨.message m, ⟨built, safe⟩, .message m both.1 (isText_iff.mp message) shows,
        .message m rfl (by simp [prop]) (by simpa [prop] using shows)⟩
  · have both : value.isRecord = true ∧ (value.prop "type").isString = true := by
      simpa using guard
    obtain rfl := Except.ok.inj h
    exact ⟨.reconnecting, trivial, .reconnecting both.1 (isText_iff.mp reconnecting),
      .reconnecting rfl (by simp [prop])⟩
  · have both : value.isRecord = true ∧ (value.prop "type").isString = true := by
      simpa using guard
    rw [Bool.and_eq_true, isText_iff] at unavailable
    obtain ⟨m, text⟩ := isString_iff.mp unavailable.2
    obtain rfl := Except.ok.inj h
    exact ⟨.unavailable m, trivial, .unavailable m both.1 unavailable.1 text,
      .unavailable m rfl (by simp [prop]) (by simpa [prop] using text)⟩

theorem decodeDaemonStreamUpdate_of_shows {u : DaemonStreamUpdate} (sound : Sound u)
    (h : ShowsUpdate value u) : ∃ built, decodeDaemonStreamUpdate value = .ok built := by
  cases h with
  | message m record type shows =>
    have decoded := decodeStreamMessage_of_shows sound.1 sound.2 shows
    simp [decodeDaemonStreamUpdate, record, type, isString, isText, decoded]
  | reconnecting record type =>
    simp [decodeDaemonStreamUpdate, record, type, isString, isText]
  | unavailable m record type message =>
    simp [decodeDaemonStreamUpdate, record, type, message, isString, isText]

end Accepted

section Handed

variable (numerals : String → Rat) {m : StreamMessage}

/-- A sequence is shown as itself only where it is safe. -/
theorem safe_of_number {n k : UInt64} (small : k.toNat ≤ maxSafeInteger)
    (same : ofJson numerals (serialize n) = .number (Rat.ofInt k.toNat)) :
    n.toNat ≤ maxSafeInteger := by
  have rounded : nearest n.toNat = k.toNat := Int.ofNat.inj (congrArg Rat.num (number.inj same))
  by_contra large
  have far := nearest_of_lt (Nat.lt_of_not_le large)
  omega

theorem safe_of_shows {m' : StreamMessage} (safe : Safe m')
    (shows : ShowsMessage (ofJson numerals (serialize m)) m') : Safe m := by
  change ShowsMessage (ofJson numerals m.toJson) m' at shows
  cases shows with
  | snapshot s' record messageType shows =>
    cases m with
    | event e => simp [StreamMessage.toJson] at messageType
    | snapshot s =>
      have sequence := shows.lastSequence
      have inner : (ofJson numerals (StreamMessage.snapshot s).toJson).prop "snapshot" =
          ofJson numerals s.toJson := by
        simp [StreamMessage.toJson]
        rfl
      rw [inner] at sequence
      simp [WorkspaceSnapshot.toJson] at sequence
      exact safe_of_number numerals safe sequence
  | event e' record messageType shows =>
    cases m with
    | snapshot s => simp [StreamMessage.toJson] at messageType
    | event e =>
      have sequence := shows.sequence
      have inner : (ofJson numerals (StreamMessage.event e).toJson).prop "event" =
          ofJson numerals e.toJson := by
        simp [StreamMessage.toJson]
        rfl
      rw [inner] at sequence
      simp [DaemonEvent.toJson] at sequence
      exact safe_of_number numerals safe sequence

/-- The callback of the channel hands on a message exactly if its sequence is a safe integer. -/
theorem onMessage_isSome_iff (built : m.Built) :
    (onMessage (ofJson numerals (DaemonStreamUpdate.message m).toJson)).isSome = true ↔ Safe m := by
  constructor
  · intro handed
    obtain ⟨v, some⟩ := Option.isSome_iff_exists.mp handed
    unfold onMessage at some
    cases decoded : decodeDaemonStreamUpdate
        (ofJson numerals (DaemonStreamUpdate.message m).toJson) with
    | error error =>
      rw [decoded] at some
      cases some
    | ok v' =>
      obtain ⟨u, sound, shows, _⟩ := shows_of_decodeDaemonStreamUpdate decoded
      cases shows with
      | message m' record type shows =>
        have inner : (ofJson numerals (DaemonStreamUpdate.message m).toJson).prop "message" =
            ofJson numerals (serialize m) := by
          simp [DaemonStreamUpdate.toJson]
        rw [inner] at shows
        exact safe_of_shows numerals sound.2 shows
      | reconnecting record type => simp [DaemonStreamUpdate.toJson] at type
      | unavailable text record type => simp [DaemonStreamUpdate.toJson] at type
  · intro safe
    obtain ⟨v, _, handed, _⟩ := agreesOnUpdate_message numerals built safe
    rw [handed]
    rfl

end Handed

end Kesharon.Bridge

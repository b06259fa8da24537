import Kesharon.Bridge.Accepted

namespace Kesharon.Bridge

open Framework Host Protocol Script

/-- What a decoder of a call throws: a `ProtocolDecodeError`, or a `DaemonResponseError`. -/
inductive Thrown where
  | decode (error : ProtocolDecodeError)
  | response (code message : Script)

/-- `message` of an `Error`. -/
def Thrown.message (numberText : Rat → String) : Thrown → Script
  | .decode error => .string (error.message numberText)
  | .response _ message => message

def requireResult (response : Script) : Except Thrown Script :=
  if !(response.prop "error").isNull then
    .error (.response ((response.prop "error").prop "code")
      ((response.prop "error").prop "message"))
  else .ok (response.prop "result")

/-- A decoder of a call: the result has to be of one type, and some of its fields are returned. -/
def decodeResult (tag : String) (fields : List String) (value : Script) : Except Thrown Script :=
  match decodeDaemonResponse value with
  | .error error => .error (.decode error)
  | .ok response =>
    match requireResult response with
    | .error thrown => .error thrown
    | .ok result =>
      if !(result.prop "type").isText tag then .error (.decode .malformedResponse)
      else .ok (.object (("requestId", response.prop "requestId") ::
        fields.map fun name => (name, result.prop name)))

def decodeHealthResponse : Script → Except Thrown Script :=
  decodeResult "health" ["status","protocolVersion"]

def decodeProjectOpenResponse : Script → Except Thrown Script :=
  decodeResult "projectOpened" ["project"]

def decodeCancellationResponse : Script → Except Thrown Script :=
  decodeResult "cancellation" ["targetRequestId","outcome"]

def decodeSubscriptionReadyResponse : Script → Except Thrown Script :=
  decodeResult "subscriptionReady" ["streamId"]

/-- The tag of a result. -/
def resultType : ResponsePayload → String
  | .health _ _ => "health"
  | .projectOpened _ => "projectOpened"
  | .cancellation _ _ => "cancellation"
  | .subscriptionReady _ => "subscriptionReady"

section Results

variable {value : Script} {tag : String} {fields : List String}

theorem ShowsResult.type {r : ResponsePayload} (h : ShowsResult value r) :
    value.prop "type" = .string (resultType r) := by
  cases h with
  | health _ _ _ type _ _ => exact type
  | projectOpened _ _ type _ => exact type
  | cancellation _ _ _ type _ _ => exact type
  | subscriptionReady _ _ type _ => exact type

theorem number_inj {a b : Nat} (h : number (Rat.ofInt a) = number (Rat.ofInt b)) : a = b :=
  Int.ofNat.inj (congrArg Rat.num (number.inj h))

theorem not_record_null {Shown : Prop} (null : value = .null) (record : value.isRecord = true) :
    Shown := by
  rw [null] at record
  cases record

/-- Results that one value shows are both current, or both not. -/
theorem current_of_shows {r r' : ResponsePayload} (h : ShowsResult value r)
    (h' : ShowsResult value r') (current : Current r') : Current r := by
  have tags := string.inj (h.type.symm.trans h'.type)
  cases h with
  | health status version record type health protocolVersion =>
    cases h' with
    | health status' version' record' type' health' protocolVersion' =>
      have same := number_inj (protocolVersion.symm.trans protocolVersion')
      exact (UInt16.toNat_inj.mp same).trans current
    | _ => simp [resultType] at tags
  | _ => trivial

/-- And so are responses proper. -/
theorem proper_of_shows {r r' : ServerResponse} (h : ShowsResponse value r)
    (h' : ShowsResponse value r') (proper : Proper r') : Proper r := by
  have version := number_inj (h.protocolVersion.symm.trans h'.protocolVersion)
  rw [proper.version] at version
  obtain ⟨protocolVersion, requestId, result, error⟩ := r
  obtain rfl : protocolVersion = Protocol.PROTOCOL_VERSION := UInt16.toNat_inj.mp version
  have shown : ShowsOption ShowsResult (value.prop "result") result := h.result
  have shown' : ShowsOption ShowsError (value.prop "error") error := h.error
  cases proper with
  | @success requestId' result' current =>
    have present : ShowsResult (value.prop "result") result' := h'.result
    have absent : value.prop "error" = .null := h'.error
    cases error with
    | some e => exact not_record_null absent (show ShowsError _ e from shown').record
    | none =>
      cases result with
      | none =>
        have null : value.prop "result" = .null := shown
        have tag := present.type
        rw [null] at tag
        cases tag
      | some res => exact .success requestId (current_of_shows shown present current)
  | failure requestId' code message =>
    have present : ShowsError (value.prop "error") ⟨code,message⟩ := h'.error
    have absent : value.prop "result" = .null := h'.result
    cases error with
    | none => exact not_record_null shown' present.record
    | some e =>
      cases result with
      | none => exact .failure requestId e.code e.message
      | some res =>
        have tag := (show ShowsResult _ res from shown).type
        rw [absent] at tag
        cases tag

/-- A response that is not proper is refused, for its version or for its shape. -/
theorem decodeDaemonResponse_improper {r : ServerResponse} (shows : ShowsResponse value r)
    (improper : ¬ Proper r) :
    decodeDaemonResponse value = .error (
      if r.protocolVersion = Protocol.PROTOCOL_VERSION then .malformedResponse
      else .unsupportedVersion (some (Rat.ofInt r.protocolVersion.toNat))) := by
  cases decoded : decodeDaemonResponse value with
  | ok accepted =>
    obtain ⟨_, r', proper, shows'⟩ := shows_of_decodeDaemonResponse decoded
    exact absurd (proper_of_shows shows shows' proper) improper
  | error error =>
    unfold decodeDaemonResponse at decoded
    rw [if_neg (by simp [shows.record])] at decoded
    unfold requireProtocolVersion at decoded
    rw [shows.protocolVersion] at decoded
    by_cases version : r.protocolVersion = Protocol.PROTOCOL_VERSION
    · rw [version, isNatural_version] at decoded
      dsimp only at decoded
      rw [if_pos version]
      simp only [if_true] at decoded
      split_ifs at decoded
      · rw [Except.error.inj decoded]
      · rw [Except.error.inj decoded]
    · have other : (number (Rat.ofInt r.protocolVersion.toNat)).isNatural PROTOCOL_VERSION =
          false := by
        refine Bool.eq_false_iff.mpr ?_
        intro same
        have equal := number_inj (isNatural_iff.mp same)
        exact version (UInt16.toNat_inj.mp equal)
      rw [other] at decoded
      rw [if_neg version]
      exact congrArg Except.error (Except.error.inj decoded).symm

/-- A successful response, of the right type or not. -/
theorem decodeResult_success {requestId : String} {result : ResponsePayload}
    (current : Current result) (shows : ShowsResponse value (.success requestId result)) :
    decodeResult tag fields value =
      if resultType result = tag then
        .ok (.object (("requestId", value.prop "requestId") ::
          fields.map fun name => (name, (value.prop "result").prop name)))
      else .error (.decode .malformedResponse) := by
  have error : value.prop "error" = .null := shows.error
  have type := ShowsResult.type shows.result
  unfold decodeResult
  rw [decodeDaemonResponse_of_shows (.success requestId current) shows]
  unfold requireResult
  dsimp only
  rw [error]
  by_cases same : resultType result = tag
  · simp [isNull, type, isText, same]
  · simp [isNull, type, isText, same]

/-- A failure is thrown, whatever the type. -/
theorem decodeResult_failure {requestId message : String} {code : ErrorCode}
    (shows : ShowsResponse value (.failure requestId code message)) :
    decodeResult tag fields value =
      .error (.response (.string (errorLiteral code)) (.string message)) := by
  have error : ShowsError (value.prop "error") ⟨code,message⟩ := shows.error
  have present : (value.prop "error").isNull = false := by
    obtain ⟨entries, object⟩ := isRecord_iff.mp error.record
    rw [object]
    rfl
  unfold decodeResult
  rw [decodeDaemonResponse_of_shows (.failure requestId code message) shows]
  unfold requireResult
  dsimp only
  rw [present, error.code, error.message]
  rfl

theorem decodeResult_refused {error : ProtocolDecodeError}
    (refused : decodeDaemonResponse value = .error error) :
    decodeResult tag fields value = .error (.decode error) := by
  unfold decodeResult
  rw [refused]

/-- A decoder of a call returns these fields of a successful response of its type, throws what a
failure says, and throws a `ProtocolDecodeError` on all other values. -/
structure Exact (decode : Script → Except Thrown Script) (tag : String) (fields : List String) :
    Prop where
  returns : ∀ value built, decode value = .ok built ↔
    ∃ requestId result, Current result ∧ resultType result = tag ∧
      ShowsResponse value (.success requestId result) ∧
      built = .object (("requestId", .string requestId) ::
        fields.map fun name => (name, (value.prop "result").prop name))
  throws : ∀ value code message, decode value = .error (.response code message) ↔
    ∃ requestId c m, ShowsResponse value (.failure requestId c m) ∧
      code = .string (errorLiteral c) ∧ message = .string m
  refuses : ∀ value, (∃ error, decode value = .error (.decode error)) ↔
    ∀ r, Proper r → ShowsResponse value r →
      ∃ requestId result, r = .success requestId result ∧ resultType result ≠ tag

theorem exact_returns (value built : Script) : decodeResult tag fields value = .ok built ↔
    ∃ requestId result, Current result ∧ resultType result = tag ∧
      ShowsResponse value (.success requestId result) ∧
      built = .object (("requestId", .string requestId) ::
        fields.map fun name => (name, (value.prop "result").prop name)) := by
  constructor
  · intro h
    cases decoded : decodeDaemonResponse value with
    | error error =>
      rw [decodeResult_refused decoded] at h
      cases h
    | ok accepted =>
      obtain ⟨_, r, proper, shows⟩ := shows_of_decodeDaemonResponse decoded
      cases proper with
      | failure requestId code message =>
        rw [decodeResult_failure shows] at h
        cases h
      | @success requestId result current =>
        rw [decodeResult_success current shows] at h
        split_ifs at h with same
        have named : value.prop "requestId" = .string requestId := shows.requestId
        rw [named] at h
        exact ⟨requestId, result, current, same, shows, (Except.ok.inj h).symm⟩
  · rintro ⟨requestId, result, current, same, shows, rfl⟩
    have named : value.prop "requestId" = .string requestId := shows.requestId
    rw [decodeResult_success current shows, if_pos same, named]

theorem exact_throws (value code message : Script) :
    decodeResult tag fields value = .error (.response code message) ↔
      ∃ requestId c m, ShowsResponse value (.failure requestId c m) ∧
        code = .string (errorLiteral c) ∧ message = .string m := by
  constructor
  · intro h
    cases decoded : decodeDaemonResponse value with
    | error error =>
      rw [decodeResult_refused decoded] at h
      cases h
    | ok accepted =>
      obtain ⟨_, r, proper, shows⟩ := shows_of_decodeDaemonResponse decoded
      cases proper with
      | failure requestId c m =>
        rw [decodeResult_failure shows] at h
        cases h
        exact ⟨requestId, c, m, shows, rfl, rfl⟩
      | @success requestId result current =>
        rw [decodeResult_success current shows] at h
        split_ifs at h
        cases h
  · rintro ⟨requestId, c, m, shows, rfl, rfl⟩
    exact decodeResult_failure shows

theorem exact_refuses (value : Script) :
    (∃ error, decodeResult tag fields value = .error (.decode error)) ↔
      ∀ r, Proper r → ShowsResponse value r →
        ∃ requestId result, r = .success requestId result ∧ resultType result ≠ tag := by
  constructor
  · rintro ⟨error, refused⟩ r proper shows
    cases proper with
    | failure requestId code message =>
      rw [decodeResult_failure shows] at refused
      cases refused
    | @success requestId result current =>
      rw [decodeResult_success current shows] at refused
      split_ifs at refused with same
      exact ⟨requestId, result, rfl, same⟩
  · intro other
    cases decoded : decodeDaemonResponse value with
    | error error => exact ⟨error, decodeResult_refused decoded⟩
    | ok accepted =>
      obtain ⟨_, r, proper, shows⟩ := shows_of_decodeDaemonResponse decoded
      obtain ⟨requestId', result', here, differs⟩ := other r proper shows
      cases proper with
      | failure requestId code message => cases here
      | @success requestId result current =>
        obtain rfl : result = result' := Option.some.inj (congrArg ServerResponse.result here)
        rw [decodeResult_success current shows, if_neg differs]
        exact ⟨_, rfl⟩

theorem exact_decodeResult (tag : String) (fields : List String) :
    Exact (decodeResult tag fields) tag fields :=
  ⟨exact_returns,exact_throws,exact_refuses⟩

end Results

/-- The decoders of the bridge accept the values of the protocol, and no others. -/
theorem decoders_accept_exactly :
    (∀ value accepted, decodeDaemonResponse value = .ok accepted ↔
      accepted = value ∧ ∃ r, Proper r ∧ ShowsResponse value r) ∧
    (∀ value accepted, decodeStreamMessage value = .ok accepted ↔
      accepted = value ∧ ∃ m, m.Built ∧ Safe m ∧ ShowsMessage value m) ∧
    (∀ raw, (∃ v, onMessage raw = some v) ↔ ∃ u, Sound u ∧ ShowsUpdate raw u) ∧
    (∀ raw v, onMessage raw = some v → ∃ u, Sound u ∧ ShowsUpdate raw u ∧ ShowsUpdate v u) ∧
    Exact decodeHealthResponse "health" ["status","protocolVersion"] ∧
    Exact decodeProjectOpenResponse "projectOpened" ["project"] ∧
    Exact decodeCancellationResponse "cancellation" ["targetRequestId","outcome"] ∧
    Exact decodeSubscriptionReadyResponse "subscriptionReady" ["streamId"] := by
  have updates (raw : Script) :
      (∃ v, onMessage raw = some v) ↔ ∃ v, decodeDaemonStreamUpdate raw = .ok v := by
    unfold onMessage
    cases decodeDaemonStreamUpdate raw <;> simp
  refine ⟨fun _ => decodeDaemonResponse_iff, fun _ => decodeStreamMessage_iff, ?_, ?_,
    exact_decodeResult _ _, exact_decodeResult _ _, exact_decodeResult _ _,
    exact_decodeResult _ _⟩
  · intro raw
    rw [updates]
    constructor
    · intro accepted
      obtain ⟨v, decoded⟩ := accepted
      obtain ⟨u, sound, shows, _⟩ := shows_of_decodeDaemonStreamUpdate decoded
      exact ⟨u, sound, shows⟩
    · intro shown
      obtain ⟨u, sound, shows⟩ := shown
      exact decodeDaemonStreamUpdate_of_shows sound shows
  · intro raw v handed
    unfold onMessage at handed
    cases decoded : decodeDaemonStreamUpdate raw with
    | error error =>
      rw [decoded] at handed
      cases handed
    | ok built =>
      rw [decoded] at handed
      obtain rfl := Option.some.inj handed
      exact shows_of_decodeDaemonStreamUpdate decoded

end Kesharon.Bridge

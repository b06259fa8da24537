import Kesharon.Framework.Script

namespace Kesharon.Bridge

open Framework

def PROTOCOL_VERSION : Nat := 1

inductive ProtocolDecodeError where
  | malformedResponse
  | malformedUpdate
  | malformedMessage
  | unsupportedVersion (version : Option Rat)

/-- The text of the error. How a number is written is a parameter. -/
def ProtocolDecodeError.message (numberText : Rat → String) : ProtocolDecodeError → String
  | .malformedResponse => "Malformed daemon response"
  | .malformedUpdate => "Malformed daemon stream update"
  | .malformedMessage => "Malformed daemon stream message"
  | .unsupportedVersion (some version) => "Unsupported protocol version " ++ numberText version
  | .unsupportedVersion none => "Unsupported protocol version unknown"

def isErrorCode (value : Script) : Bool :=
  value.isText "invalidRequest" ||
  value.isText "notGitRepository" ||
  value.isText "projectPathUnavailable" ||
  value.isText "operationCancelled" ||
  value.isText "requestInProgress" ||
  value.isText "serverBusy" ||
  value.isText "internalError"

def isProjectSnapshot (value : Script) : Bool :=
  value.isRecord &&
  (value.prop "id").isString &&
  (value.prop "displayName").isString &&
  (value.prop "canonicalRoot").isString &&
  (value.prop "trusted").isBoolean

/-- What `isWorkspaceSnapshot` asks of every operation. -/
def isOperationSnapshot (operation : Script) : Bool :=
  operation.isRecord &&
  (operation.prop "requestId").isString &&
  (operation.prop "kind").isText "openProject" &&
  (operation.prop "status").isText "running"

def isWorkspaceSnapshot (value : Script) : Bool :=
  value.isRecord &&
  (value.prop "streamId").isString &&
  (value.prop "lastSequence").isSafeInteger &&
  (value.prop "lastSequence").isAtLeast 0 &&
  ((value.prop "project").isNull || isProjectSnapshot (value.prop "project")) &&
  (value.prop "activeOperations").isArrayOf isOperationSnapshot

def isEventPayload (value : Script) : Bool :=
  if !value.isRecord || !(value.prop "requestId").isString then false
  else
    match value.prop "type" with
    | .string "operationStarted" => (value.prop "kind").isText "openProject"
    | .string "projectOpened" => isProjectSnapshot (value.prop "project")
    | .string "operationCancelled" => true
    | .string "operationFailed" =>
      isErrorCode (value.prop "code") && (value.prop "message").isString
    | _ => false

def isResponsePayload (value : Script) : Bool :=
  if !value.isRecord then false
  else
    match value.prop "type" with
    | .string "health" =>
      ((value.prop "status").isText "ready" || (value.prop "status").isText "degraded") &&
      (value.prop "protocolVersion").isNatural PROTOCOL_VERSION
    | .string "projectOpened" => isProjectSnapshot (value.prop "project")
    | .string "cancellation" =>
      (value.prop "targetRequestId").isString &&
      ((value.prop "outcome").isText "accepted" ||
        (value.prop "outcome").isText "alreadyFinished" ||
        (value.prop "outcome").isText "notFound")
    | .string "subscriptionReady" => (value.prop "streamId").isString
    | _ => false

def isDaemonErrorPayload (value : Script) : Bool :=
  value.isRecord && isErrorCode (value.prop "code") && (value.prop "message").isString

def requireProtocolVersion (value : Script) : Except ProtocolDecodeError Unit :=
  if (value.prop "protocolVersion").isNatural PROTOCOL_VERSION then .ok ()
  else
    match value.prop "protocolVersion" with
    | .number version => .error (.unsupportedVersion (some version))
    | _ => .error (.unsupportedVersion none)

/-- An accepted value is returned as it is, with another type. -/
def decodeDaemonResponse (value : Script) : Except ProtocolDecodeError Script :=
  if !value.isRecord then .error .malformedResponse
  else
    match requireProtocolVersion value with
    | .error error => .error error
    | .ok () =>
      if !(value.prop "requestId").isString then .error .malformedResponse
      else if (value.prop "error").isNull && isResponsePayload (value.prop "result") then .ok value
      else if (value.prop "result").isNull && isDaemonErrorPayload (value.prop "error") then
        .ok value
      else .error .malformedResponse

def decodeStreamMessage (value : Script) : Except ProtocolDecodeError Script :=
  if !value.isRecord then .error .malformedMessage
  else if (value.prop "messageType").isText "snapshot" &&
      isWorkspaceSnapshot (value.prop "snapshot") then .ok value
  else if (value.prop "messageType").isText "event" &&
      (value.prop "event").isRecord &&
      ((value.prop "event").prop "protocolVersion").isNatural PROTOCOL_VERSION &&
      ((value.prop "event").prop "streamId").isString &&
      ((value.prop "event").prop "sequence").isSafeInteger &&
      ((value.prop "event").prop "sequence").isAbove 0 &&
      isEventPayload ((value.prop "event").prop "payload") then .ok value
  else .error .malformedMessage

/-- An accepted update is built anew. -/
def decodeDaemonStreamUpdate (value : Script) : Except ProtocolDecodeError Script :=
  if !value.isRecord || !(value.prop "type").isString then .error .malformedUpdate
  else if (value.prop "type").isText "message" then
    match decodeStreamMessage (value.prop "message") with
    | .error error => .error error
    | .ok message => .ok (.object [("type", .string "message"), ("message", message)])
  else if (value.prop "type").isText "reconnecting" then
    .ok (.object [("type", .string "reconnecting")])
  else if (value.prop "type").isText "unavailable" && (value.prop "message").isString then
    .ok (.object [("type", .string "unavailable"), ("message", value.prop "message")])
  else .error .malformedUpdate

/-- The callback of the channel in `subscribeDaemonEvents`: what it hands to `onUpdate`, if it
does not only log an error. -/
def onMessage (raw : Script) : Option Script :=
  match decodeDaemonStreamUpdate raw with
  | .ok decoded => some decoded
  | .error _ => none

end Kesharon.Bridge

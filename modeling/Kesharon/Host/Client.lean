import Kesharon.Ipc.Stream
import Kesharon.Protocol.Frame

namespace Kesharon.Host

open Framework Ipc Protocol

inductive HostError where
  | io (error : IoError)
  | protocol (error : ProtocolError)
  | endpoint (error : String)
  | random (error : String)
  | runtime (error : String)
  | stateUnavailable
  | invalidTimeout
  | unexpectedResponse
  deriving DecidableEq, Repr

/-- `HostError::Io` of a read that met its deadline. -/
def HostError.isTimedOut : HostError → Bool
  | .io error => error.kind = .timedOut
  | _ => false

variable {α : Type}

/-- Behind the payload: go on with the whole frame. -/
def takePayload (next : List UInt8 → Reads (Except HostError α)) (length : List UInt8) :
    Except IoError (List UInt8) → Reads (Except HostError α)
  | .error error => .done (.error (.io error))
  | .ok payload => next (length ++ payload)

/-- Behind the length prefix: refuse a frame that is too long, or read its payload. -/
def readPayload (timeout : Nat) (next : List UInt8 → Reads (Except HostError α)) :
    Except IoError (List UInt8) → Reads (Except HostError α)
  | .error error => .done (.error (.io error))
  | .ok length =>
    let declared := fromBeBytes length
    if MAX_FRAME_BYTES < declared then
      .done (.error (.protocol (.frameTooLarge declared MAX_FRAME_BYTES)))
    else .readExact declared timeout (takePayload next length)

/-- Read a frame, each part of it with its own deadline. -/
def readFrame (timeout : Nat) (next : List UInt8 → Reads (Except HostError α)) :
    Reads (Except HostError α) :=
  .readExact 4 timeout (readPayload timeout next)

def decodeMessage (json : SerdeJson StreamMessage) (frame : List UInt8) :
    Reads (Except HostError StreamMessage) :=
  .done ((decodeStreamMessageFrame json frame).mapError .protocol)

/-- `DaemonSubscription::read_next_message` -/
def readNextMessage (json : SerdeJson StreamMessage) (timeout : Nat) :
    Reads (Except HostError StreamMessage) :=
  readFrame timeout (decodeMessage json)

/-- What `DaemonClient::subscribe` keeps of the handshake. -/
structure DaemonSubscription where
  streamId : String
  initialSnapshot : WorkspaceSnapshot
  deriving DecidableEq, Repr

/-- The snapshot that `DaemonClient::subscribe` expects behind the response. -/
def takeSnapshot (json : SerdeJson StreamMessage) (streamId : String) (frame : List UInt8) :
    Reads (Except HostError DaemonSubscription) :=
  match decodeStreamMessageFrame json frame with
  | .error error => .done (.error (.protocol error))
  | .ok (.snapshot snapshot) => .done (.ok ⟨streamId,snapshot⟩)
  | .ok (.event _) => .done (.error .unexpectedResponse)

/-- The response that `DaemonClient::subscribe` expects first. -/
def takeReady (responses : SerdeJson ServerResponse) (messages : SerdeJson StreamMessage)
    (timeout : Nat) (frame : List UInt8) : Reads (Except HostError DaemonSubscription) :=
  match decodeServerResponseFrame responses frame with
  | .error error => .done (.error (.protocol error))
  | .ok response =>
    match response.result with
    | some (.subscriptionReady streamId) => readFrame timeout (takeSnapshot messages streamId)
    | _ => .done (.error .unexpectedResponse)

/-- `DaemonClient::subscribe`, from where its request is written. -/
def subscribeReads (responses : SerdeJson ServerResponse) (messages : SerdeJson StreamMessage)
    (timeout : Nat) : Reads (Except HostError DaemonSubscription) :=
  readFrame timeout (takeReady responses messages timeout)

end Kesharon.Host

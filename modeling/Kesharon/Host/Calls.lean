import Kesharon.Host.Request
import Kesharon.Ipc.Bounds

namespace Kesharon.Host

open Framework Ipc Protocol

structure HealthSnapshot where
  status : HealthStatus
  protocolVersion : UInt16
  deriving DecidableEq, Repr

/-- What `DaemonClient::health` makes of a response. -/
def HealthSnapshot.ofResponse (response : ServerResponse) : Except HostError HealthSnapshot :=
  match response.result with
  | some (.health status protocolVersion) => .ok ⟨status,protocolVersion⟩
  | _ => .error .unexpectedResponse

namespace RequestClient

/-- Build a request and send it. -/
def call (c : RequestClient) (requestId : String) (method : RequestMethod)
    (idempotencyKey : Option String) : Program (Except HostError ServerResponse) :=
  match ClientRequest.new requestId method idempotencyKey with
  | .error error => .done (.error (.protocol error))
  | .ok request => c.sendRequest request

/-- `request_health`, with the id that it generates. -/
def requestHealth (c : RequestClient) (requestId : String) :
    Program (Except HostError ServerResponse) :=
  c.call requestId .health none

def health (c : RequestClient) (requestId : String) : Program (Except HostError HealthSnapshot) :=
  (c.requestHealth requestId).map fun response => response.bind HealthSnapshot.ofResponse

def openProject (c : RequestClient) (path requestId idempotencyKey : String) :
    Program (Except HostError ServerResponse) :=
  c.call requestId (.openProject path) (some idempotencyKey)

def cancelRequest (c : RequestClient) (targetRequestId requestId idempotencyKey : String) :
    Program (Except HostError ServerResponse) :=
  c.call requestId (.cancelRequest targetRequestId) (some idempotencyKey)

/-- `DaemonClient::subscribe`, with the id that it generates, on a connection that has been made. -/
def subscribe (c : RequestClient) (requestId : String) :
    Program (Except HostError DaemonSubscription) :=
  match ClientRequest.new requestId .subscribeEvents none with
  | .error error => .done (.error (.protocol error))
  | .ok request =>
    match encodeFrame c.requests request with
    | .error error => .done (.error (.protocol error))
    | .ok frame =>
      .writeAll (utf8 c.launchToken) c.client.ioTimeout fun
        | .error error => .done (.error (.io error))
        | .ok () =>
          .writeAll frame c.client.ioTimeout fun
            | .error error => .done (.error (.io error))
            | .ok () =>
              (subscribeReads c.client.responses c.client.messages c.client.ioTimeout).andThen .done

end RequestClient

/-- The passes that the write of a request can take, and the read of a frame. -/
def sendBound (timeout : Nat) : Nat := 2 * timeout + 68 + MAX_FRAME_BYTES

def answerBound (timeout : Nat) : Nat := 2 * timeout + 4 + MAX_FRAME_BYTES

section Bounds

variable {α : Type} {timeout n : Nat}

theorem readFrame_takes {next : List UInt8 → Reads (Except HostError α)}
    (rest : ∀ frame, (next frame).Takes n) :
    (readFrame timeout next).Takes (answerBound timeout + n) := by
  unfold readFrame answerBound
  apply Reads.Takes.readExact (m := timeout + MAX_FRAME_BYTES + n) (by omega)
  intro r
  cases r with
  | error error => exact .done _ _
  | ok length =>
    unfold readPayload
    dsimp only
    split_ifs with large
    · exact .done _ _
    · apply Reads.Takes.readExact (m := n) (by omega)
      intro r
      cases r with
      | error error => exact .done _ _
      | ok payload => exact rest (length ++ payload)

theorem encodeFrame_length {json : SerdeJson α} {message : α} {frame : List UInt8}
    (encoded : encodeFrame json message = .ok frame) : frame.length ≤ 4 + MAX_FRAME_BYTES := by
  rw [encodeFrame_eq] at encoded
  cases built : Frame.encode json message with
  | error error =>
    rw [built] at encoded
    cases encoded
  | ok f =>
    rw [built] at encoded
    obtain rfl := Except.ok.inj encoded
    have fits := f.fits
    rw [frameOf_length]
    omega

theorem readNextMessage_takes (json : SerdeJson StreamMessage) (timeout : Nat) :
    (readNextMessage json timeout).Takes (answerBound timeout) :=
  readFrame_takes fun _ => .done 0 _

theorem subscribeReads_takes (responses : SerdeJson ServerResponse)
    (messages : SerdeJson StreamMessage) (timeout : Nat) :
    (subscribeReads responses messages timeout).Takes
      (answerBound timeout + answerBound timeout) := by
  apply readFrame_takes
  intro frame
  unfold takeReady
  split
  · exact .done _ _
  · split
    · apply readFrame_takes (n := 0)
      intro frame
      unfold takeSnapshot
      split <;> exact .done _ _
    · exact .done _ _

namespace RequestClient

variable {c : RequestClient}

/-- Both writes of a request, and then its reads. -/
theorem write_takes {frame : List UInt8} {reads : Program (Except HostError α)}
    (short : frame.length ≤ 4 + MAX_FRAME_BYTES) (rest : reads.Takes n) :
    (Program.writeAll (utf8 c.launchToken) timeout fun
      | .error error => .done (.error (.io error))
      | .ok () =>
        .writeAll frame timeout fun
          | .error error => .done (.error (.io error))
          | .ok () => reads).Takes (sendBound timeout + n) := by
  have token := c.launchToken_length
  unfold sendBound
  apply Program.Takes.writeAll (m := timeout + frame.length + n) (by omega)
  intro r
  cases r with
  | error error => exact .done _ _
  | ok u =>
    apply Program.Takes.writeAll (Nat.le_refl _)
    intro r
    cases r with
    | error error => exact .done _ _
    | ok u => exact rest

theorem sendRequest_takes (request : ClientRequest) :
    (c.sendRequest request).Takes
      (sendBound c.client.ioTimeout + answerBound c.client.ioTimeout) := by
  unfold sendRequest
  split
  · exact .done _ _
  next frame encoded =>
    apply write_takes (encodeFrame_length encoded)
    exact (readFrame_takes (n := 0) fun _ => .done 0 _).andThen fun a => .done 0 a

theorem call_takes (requestId : String) (method : RequestMethod) (idempotencyKey : Option String) :
    (c.call requestId method idempotencyKey).Takes
      (sendBound c.client.ioTimeout + answerBound c.client.ioTimeout) := by
  unfold call
  split
  · exact .done _ _
  · exact sendRequest_takes _

theorem subscribe_takes (requestId : String) :
    (c.subscribe requestId).Takes
      (sendBound c.client.ioTimeout + 2 * answerBound c.client.ioTimeout) := by
  unfold subscribe
  split
  · exact .done _ _
  · split
    · exact .done _ _
    next frame encoded =>
      apply write_takes (encodeFrame_length encoded)
      have reads := subscribeReads_takes c.client.responses c.client.messages c.client.ioTimeout
      exact (reads.andThen (m := 0) fun a => .done 0 a).mono (by omega)

end RequestClient

end Bounds

end Kesharon.Host

import Kesharon.Host.Transport
import Kesharon.Host.WholeFrames
import Kesharon.Protocol.LaunchToken

namespace Kesharon.Host

open Framework Ipc Protocol

/-- A `DaemonClient` that has been built, as it sends requests: its token has been parsed, and its
timeout is not zero. -/
structure RequestClient where
  client : DaemonClient
  requests : SerdeJson ClientRequest
  launchToken : String
  parses : ∃ token, LaunchToken.parseHex launchToken = .ok (.ok token)
  timeout_ne : client.ioTimeout ≠ 0

namespace RequestClient

/-- `DaemonClient::new_with_timeout` -/
def newWithTimeout (client : DaemonClient) (requests : SerdeJson ClientRequest)
    (launchToken : String) : Except Panic (Except HostError RequestClient) :=
  match parsed : LaunchToken.parseHex launchToken with
  | .error panic => .error panic
  | .ok (.error error) => .ok (.error (.protocol error))
  | .ok (.ok token) =>
    if zero : client.ioTimeout = 0 then .ok (.error .invalidTimeout)
    else .ok (.ok ⟨client,requests,launchToken,⟨token,parsed⟩,zero⟩)

theorem launchToken_length (c : RequestClient) : (utf8 c.launchToken).length = 64 := by
  obtain ⟨token, parsed⟩ := c.parses
  by_contra other
  unfold LaunchToken.parseHex at parsed
  rw [if_pos other] at parsed
  cases parsed

def decodeResponse (json : SerdeJson ServerResponse) (frame : List UInt8) :
    Reads (Except HostError ServerResponse) :=
  .done ((decodeServerResponseFrame json frame).mapError .protocol)

/-- The reads of `send_request`. -/
def receiveResponse (json : SerdeJson ServerResponse) (timeout : Nat) :
    Reads (Except HostError ServerResponse) :=
  readFrame timeout (decodeResponse json)

/-- `DaemonClient::send_request`, on a connection that has been made. -/
def sendRequest (c : RequestClient) (request : ClientRequest) :
    Program (Except HostError ServerResponse) :=
  match encodeFrame c.requests request with
  | .error error => .done (.error (.protocol error))
  | .ok frame =>
    .writeAll (utf8 c.launchToken) c.client.ioTimeout fun
      | .error error => .done (.error (.io error))
      | .ok () =>
        .writeAll frame c.client.ioTimeout fun
          | .error error => .done (.error (.io error))
          | .ok () =>
            (receiveResponse c.client.responses c.client.ioTimeout).andThen .done

/-- It sends the token and the frame, and takes the first frame that it gets. -/
theorem outcome_sendRequest (c : RequestClient) {request : ClientRequest} {frame payload : List UInt8}
    (encoded : encodeFrame c.requests request = .ok frame)
    (fits : payload.length ≤ MAX_FRAME_BYTES) (rest : List UInt8) :
    (c.sendRequest request).outcome (frameOf payload ++ rest) =
      some ⟨(decodeServerResponseFrame c.client.responses (frameOf payload)).mapError .protocol,
        rest,utf8 c.launchToken ++ frame⟩ := by
  have received : ((receiveResponse c.client.responses c.client.ioTimeout).andThen
      Program.done).outcome (frameOf payload ++ rest) =
      some ⟨(decodeServerResponseFrame c.client.responses (frameOf payload)).mapError .protocol,
        rest,[]⟩ := by
    unfold receiveResponse
    rw [Reads.outcome_andThen, consume_readFrame fits]
    rfl
  unfold sendRequest
  rw [encoded]
  dsimp only [Program.outcome]
  rw [received]
  simp [Outcome.behind]

end RequestClient

end Kesharon.Host

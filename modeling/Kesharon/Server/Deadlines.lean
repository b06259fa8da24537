import Kesharon.Host.Calls
import Kesharon.Server.Exchange

namespace Kesharon.Server

open Framework Kesharon.Daemon Kesharon.Host Ipc Protocol

/-- `reject_busy_connection`, on the thread of the accept loop. -/
def Daemon.rejectBusyConnection (daemon : Daemon) (responses : SerdeJson ServerResponse)
    (timeout : Nat) : Program (Except Panic (Except DaemonError Unit)) :=
  (daemon.readAuthenticatedRequest timeout).andThen fun
    | .error panic => .done (.error panic)
    | .ok (.error error) => .done (.ok (.error error))
    | .ok (.ok request) =>
      match Frame.encode responses (Handler.busyResponse request.requestId) with
      | .error error => .done (.ok (.error (.protocol error.toString)))
      | .ok response => writeFrames timeout [response]

/-- The passes that the read of a request can take, and the write of a frame. -/
def receiveBound (timeout : Nat) : Nat := 3 * timeout + 68 + MAX_FRAME_BYTES

def frameBound (timeout : Nat) : Nat := timeout + 4 + MAX_FRAME_BYTES

variable {α : Type} {daemon : Daemon} {timeout : Nat}

theorem takeLength_takes (token : String) (r : Except IoError (List UInt8)) :
    (takeLength timeout token r).Takes (timeout + MAX_FRAME_BYTES) := by
  cases r with
  | error error => exact .done _ _
  | ok length =>
    unfold takeLength validateFrameSize
    dsimp only
    by_cases large : MAX_FRAME_BYTES < fromBeBytes length
    · rw [if_pos large]
      exact .done _ _
    · rw [if_neg large]
      apply Reads.Takes.readExact (m := 0) (by omega)
      intro r
      cases r with
      | error error => exact .done _ _
      | ok payload => exact .done _ _

theorem receiveRequest_takes (timeout : Nat) :
    (receiveRequest timeout).Takes (receiveBound timeout) := by
  rw [receiveRequest_eq]
  unfold receiveBound
  apply Reads.Takes.readExact (m := timeout + 4 + (timeout + MAX_FRAME_BYTES)) (by omega)
  intro r
  cases r with
  | error error => exact .done _ _
  | ok token =>
    unfold takeToken
    dsimp only
    split
    · exact .done _ _
    · exact .readExact (Nat.le_refl _) (takeLength_takes _)

theorem readAuthenticatedRequest_takes (daemon : Daemon) (timeout : Nat) :
    (daemon.readAuthenticatedRequest timeout).Takes (receiveBound timeout) :=
  (receiveRequest_takes timeout).map daemon.authenticate

theorem writeFrames_takes (timeout : Nat) (frames : List Frame) :
    (writeFrames timeout frames).Takes (frames.length * frameBound timeout) := by
  induction frames with
  | nil => exact .done _ _
  | cons frame rest ih =>
    have fits := frame.fits
    have short := frameOf_length frame.payload
    have both : (frame :: rest).length * frameBound timeout =
        frameBound timeout + rest.length * frameBound timeout := by
      rw [List.length_cons, Nat.succ_mul, Nat.add_comm]
    unfold writeFrames
    rw [both]
    apply Program.Takes.writeAll (m := rest.length * frameBound timeout)
    · unfold frameBound
      omega
    · intro r
      cases r with
      | error error => exact .done _ _
      | ok u => exact ih

theorem behind_length_le (request : ClientRequest) (messages : List Frame) :
    (behind request messages).length ≤ messages.length := by
  unfold behind
  split_ifs
  · exact Nat.le_refl _
  · exact Nat.zero_le _

theorem serveLocalStream_takes (responses : SerdeJson ServerResponse)
    (dispatchRequest : ClientRequest → ServerResponse) (messages : List Frame) :
    (daemon.serveLocalStream responses timeout dispatchRequest messages).Takes
      (receiveBound timeout + (1 + messages.length) * frameBound timeout) := by
  unfold Daemon.serveLocalStream
  apply (readAuthenticatedRequest_takes daemon timeout).andThen
  intro read
  split
  · exact .done _ _
  · exact .done _ _
  next request =>
    split
    · exact .done _ _
    next response encoded =>
      apply (writeFrames_takes timeout (response :: behind request messages)).mono
      apply Nat.mul_le_mul_right
      have := behind_length_le request messages
      rw [List.length_cons]
      omega

theorem rejectBusyConnection_takes (responses : SerdeJson ServerResponse) :
    (daemon.rejectBusyConnection responses timeout).Takes
      (receiveBound timeout + frameBound timeout) := by
  unfold Daemon.rejectBusyConnection
  apply (readAuthenticatedRequest_takes daemon timeout).andThen
  intro read
  split
  · exact .done _ _
  · exact .done _ _
  · split
    · exact .done _ _
    next response encoded =>
      have one := writeFrames_takes timeout [response]
      rw [List.length_singleton, Nat.one_mul] at one
      exact one

/-- What a peer can send without knowing the token: a text of its length, and the longest payload
but for its last byte, each part of it as late as it may be. -/
def straggler (timeout : Nat) (text : String) : List Syscall :=
  drip timeout (utf8 text) ++ (drip timeout (toBeBytes 4 MAX_FRAME_BYTES) ++
    drip timeout (List.replicate (MAX_FRAME_BYTES - 1) 0))

theorem straggler_uninterrupted (timeout : Nat) (text : String) :
    (straggler timeout text).countP Syscall.uninterrupted = (straggler timeout text).length := by
  apply List.countP_eq_length.mpr
  intro p here
  unfold straggler at here
  rcases List.mem_append.mp here with token | here
  · exact drip_uninterrupted token
  · rcases List.mem_append.mp here with length | payload
    · exact drip_uninterrupted length
    · exact drip_uninterrupted payload

theorem straggler_length {text : String} (hex : (utf8 text).length = 64) :
    (straggler timeout text).length = receiveBound timeout - 1 := by
  have some : 0 < MAX_FRAME_BYTES := by decide
  unfold straggler receiveBound
  simp only [List.length_append, drip_length, toBeBytes_length, List.length_replicate, hex]
  omega

/-- Its request is still being read. -/
theorem straggler_reading {text : String} (hex : (utf8 text).length = 64)
    (k : RequestRead → Program α) :
    ∃ s, ((daemon.readAuthenticatedRequest timeout).andThen k).run (straggler timeout text) =
      .inl s := by
  have declared : fromBeBytes (toBeBytes 4 MAX_FRAME_BYTES) = MAX_FRAME_BYTES :=
    fromBeBytes_toBeBytes (by decide)
  have token : takeToken timeout (.ok (utf8 text)) =
      .readExact 4 timeout (takeLength timeout text) := by
    unfold takeToken
    dsimp only
    rw [fromUTF8?_utf8]
  have length : takeLength timeout text (.ok (toBeBytes 4 MAX_FRAME_BYTES)) =
      .readExact MAX_FRAME_BYTES timeout (takeBody text (toBeBytes 4 MAX_FRAME_BYTES)) := by
    unfold takeLength
    dsimp only
    rw [declared, validateFrameSize_ok (Nat.le_refl _)]
  have whole : MAX_FRAME_BYTES =
      (List.replicate (MAX_FRAME_BYTES - 1) (0 : UInt8)).length + 1 := by
    rw [List.length_replicate]
    decide
  have first : (daemon.readAuthenticatedRequest timeout).andThen k = .readExact 64 timeout fun r =>
      ((takeToken timeout r).map daemon.authenticate).andThen k := rfl
  unfold Program.run straggler
  rw [first, Suspended.drip_whole hex (by decide), token]
  simp only [Reads.map, Reads.andThen]
  rw [Suspended.drip_whole (toBeBytes_length _ _) (by decide), length]
  simp only [Reads.map, Reads.andThen]
  have last := @Suspended.drip_short _
    (fun r => ((takeBody text (toBeBytes 4 MAX_FRAME_BYTES) r).map daemon.authenticate).andThen k)
    1 timeout (List.replicate (MAX_FRAME_BYTES - 1) 0) (by decide)
  rw [← whole] at last
  exact ⟨_, last⟩

/-- The bound of a read is met by a peer that does not know the token. -/
theorem not_endsWithin (k : RequestRead → Program α) :
    ¬ ((daemon.readAuthenticatedRequest timeout).andThen k).EndsWithin
      (receiveBound timeout - 1) := by
  have hex : (utf8 (String.ofList (List.replicate 64 '0'))).length = 64 := by decide
  intro ends
  obtain ⟨s, reading⟩ := @straggler_reading _ daemon timeout _ hex k
  obtain ⟨a, done⟩ := ends (straggler timeout (String.ofList (List.replicate 64 '0'))) (by
    rw [straggler_uninterrupted, straggler_length hex])
  rw [reading] at done
  cases done

/-- Whatever a peer does, the calls on a connection return, the daemon's as well as the host's: what
they read and write, apart from the dispatch of the request and the waits for messages. A peer
without the token can make the daemon read for as long as the bound says. -/
theorem no_peer_holds_a_thread (daemon : Daemon) (client : RequestClient)
    (responses : SerdeJson ServerResponse) (timeout : Nat)
    (dispatchRequest : ClientRequest → ServerResponse) (messages : List Frame) (requestId : String)
    (method : RequestMethod) (idempotencyKey : Option String) :
    ((daemon.serveLocalStream responses timeout dispatchRequest messages).EndsWithin
        (receiveBound timeout + (1 + messages.length) * frameBound timeout) ∧
      (daemon.rejectBusyConnection responses timeout).EndsWithin
        (receiveBound timeout + frameBound timeout) ∧
      ¬ (daemon.serveLocalStream responses timeout dispatchRequest messages).EndsWithin
        (receiveBound timeout - 1) ∧
      ¬ (daemon.rejectBusyConnection responses timeout).EndsWithin (receiveBound timeout - 1)) ∧
    (client.call requestId method idempotencyKey).EndsWithin
        (sendBound client.client.ioTimeout + answerBound client.client.ioTimeout) ∧
      (client.health requestId).EndsWithin
        (sendBound client.client.ioTimeout + answerBound client.client.ioTimeout) ∧
      (client.subscribe requestId).EndsWithin
        (sendBound client.client.ioTimeout + 2 * answerBound client.client.ioTimeout) ∧
      ((readNextMessage client.client.messages READ_TIMEOUT).andThen .done).EndsWithin
        (answerBound READ_TIMEOUT) := by
  have serves := @serveLocalStream_takes daemon timeout responses dispatchRequest messages
  have rejects := @rejectBusyConnection_takes daemon timeout responses
  have calls := client.call_takes requestId method idempotencyKey
  have health := (client.call_takes requestId .health none).map
    fun response => response.bind HealthSnapshot.ofResponse
  have subscribes := client.subscribe_takes requestId
  have reads := (readNextMessage_takes client.client.messages READ_TIMEOUT).andThen
    (m := 0) fun a => .done 0 a
  exact ⟨⟨serves.endsWithin, rejects.endsWithin, not_endsWithin _, not_endsWithin _⟩,
    calls.endsWithin, health.endsWithin, subscribes.endsWithin, reads.endsWithin⟩

end Kesharon.Server

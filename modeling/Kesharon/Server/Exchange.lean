import Kesharon.Host.Request
import Kesharon.Ipc.Duplex
import Kesharon.Server.Handler
import Kesharon.Server.RequestRead

namespace Kesharon.Server

open Framework Application Kesharon.Daemon Kesharon.Host Ipc Protocol

/-- Write frames one by one. -/
def writeFrames (timeout : Nat) : List Frame → Program (Except Panic (Except DaemonError Unit))
  | [] => .done (.ok (.ok ()))
  | frame :: rest =>
    .writeAll (frameOf frame.payload) timeout fun
      | .error error => .done (.ok (.error (.io error.message)))
      | .ok () => writeFrames timeout rest

/-- What `serve_subscription` writes behind its response: the snapshot and the messages. -/
def behind (request : ClientRequest) (messages : List Frame) : List Frame :=
  if request.method = .subscribeEvents then messages else []

/-- `serve_local_stream`, with what `dispatch_request` answers, and what a subscriber is sent. The
answer is a function, so the time an inspection takes is not in it; a `subscribe` that fails and a
snapshot that cannot be encoded are in `Handler`. -/
def Daemon.serveLocalStream (daemon : Daemon) (responses : SerdeJson ServerResponse) (timeout : Nat)
    (dispatchRequest : ClientRequest → ServerResponse) (messages : List Frame) :
    Program (Except Panic (Except DaemonError Unit)) :=
  (daemon.readAuthenticatedRequest timeout).andThen fun
    | .error panic => .done (.error panic)
    | .ok (.error error) => .done (.ok (.error error))
    | .ok (.ok request) =>
      match Frame.encode responses (dispatchRequest request) with
      | .error error => .done (.ok (.error (.protocol error.toString)))
      | .ok response => writeFrames timeout (response :: behind request messages)

section Exchange

variable {daemon : Daemon} {client : RequestClient} {timeout : Nat}

theorem outcome_writeFrames (timeout : Nat) (frames : List Frame) (input : List UInt8) :
    (writeFrames timeout frames).outcome input =
      some ⟨.ok (.ok ()),input,(frames.map fun frame => frameOf frame.payload).flatten⟩ := by
  induction frames with
  | nil => rfl
  | cons frame rest ih =>
    unfold writeFrames Program.outcome
    dsimp only
    rw [ih]
    rfl

/-- The request that has come in is read, whatever follows it. -/
theorem consume_readAuthenticatedRequest {token : String} {frame : List UInt8}
    (hex : (utf8 token).length = 64) (framed : WellFramed frame) (rest : List UInt8) :
    (daemon.readAuthenticatedRequest timeout).consume (utf8 token ++ frame ++ rest) =
      some (daemon.authenticate (.ok (token, frame)), rest) := by
  unfold Daemon.readAuthenticatedRequest
  rw [Reads.consume_map, consume_receiveRequest hex framed]
  rfl

theorem authenticate_ok {token : String} {frame : List UInt8} {request : ClientRequest}
    (accepted : daemon.launchToken.matchesHex token = .ok true)
    (decoded : decodeClientRequestFrame daemon.requests frame = .ok request) :
    daemon.authenticate (.ok (token, frame)) = .ok (.ok request) := by
  simp only [Daemon.authenticate, accepted, decoded, Except.mapError]

/-- An encoded request is well framed, and decoded again. -/
theorem encoded_request {sender receiver : SerdeJson ClientRequest} (lawful : sender.Lawful)
    (lawful' : receiver.Lawful) {request : ClientRequest} {frame : List UInt8}
    (encoded : encodeFrame sender request = .ok frame) :
    WellFramed frame ∧ (request.Built → decodeClientRequestFrame receiver frame = .ok request) := by
  obtain ⟨fits, rfl⟩ := encodeFrame_ok lawful encoded
  refine ⟨frameOf_wellFramed fits, ?_⟩
  intro built
  have decoded := decodeFrame_encoded lawful' (by decide) fits
  exact decodeClientRequestFrame_ok.mpr ⟨decoded, (ClientRequest.built_iff request).mp built⟩

theorem encoded_response {sender receiver : SerdeJson ServerResponse} (lawful : sender.Lawful)
    (lawful' : receiver.Lawful) {response : ServerResponse} {frame : Frame}
    (encoded : Frame.encode sender response = .ok frame) (built : response.Built) :
    decodeServerResponseFrame receiver (frameOf frame.payload) = .ok response := by
  have encoded' : encodeFrame sender response = .ok (frameOf frame.payload) := by
    rw [encodeFrame_eq, encoded]
    rfl
  obtain ⟨fits, same⟩ := encodeFrame_ok lawful encoded'
  rw [same]
  exact decodeServerResponseFrame_ok.mpr ⟨decodeFrame_encoded lawful' (by decide) fits, built⟩

/-- A request and its response, whatever the passes: the client gets the response, and what follows
it stays unread. -/
theorem exchange_settles {responses : SerdeJson ServerResponse}
    {dispatchRequest : ClientRequest → ServerResponse} {request : ClientRequest}
    {frame : List UInt8} {reply : Frame} (lawful₁ : client.requests.Lawful)
    (lawful₂ : daemon.requests.Lawful) (lawful₃ : responses.Lawful)
    (lawful₄ : client.client.responses.Lawful)
    (encoded : encodeFrame client.requests request = .ok frame) (built : request.Built)
    (accepted : daemon.launchToken.matchesHex client.launchToken = .ok true)
    (encoded' : Frame.encode responses (dispatchRequest request) = .ok reply)
    (built' : (dispatchRequest request).Built) (messages : List Frame) :
    (Duplex.new (client.sendRequest request)
      (daemon.serveLocalStream responses timeout dispatchRequest messages)).Settles
        (.ok (dispatchRequest request))
        ((behind request messages).map fun frame => frameOf frame.payload).flatten
        (.ok (.ok ())) [] := by
  obtain ⟨framed, decodes⟩ := encoded_request lawful₁ lawful₂ encoded
  have sends := client.outcome_sendRequest encoded reply.fits
    ((behind request messages).map fun frame => frameOf frame.payload).flatten
  rw [encoded_response lawful₃ lawful₄ encoded' built'] at sends
  have reads := @consume_readAuthenticatedRequest daemon timeout _ _ client.launchToken_length
    framed []
  rw [authenticate_ok accepted (decodes built), List.append_nil] at reads
  have serves : (daemon.serveLocalStream responses timeout dispatchRequest messages).outcome
      (utf8 client.launchToken ++ frame) =
        some ⟨.ok (.ok ()),[],frameOf reply.payload ++
          ((behind request messages).map fun frame => frameOf frame.payload).flatten⟩ := by
    unfold Daemon.serveLocalStream
    rw [Reads.outcome_andThen, reads]
    dsimp only [Option.bind_some]
    rw [encoded']
    dsimp only
    rw [outcome_writeFrames]
    rfl
  exact Duplex.new_settles (c := ⟨_,_,utf8 client.launchToken ++ frame⟩) (d := ⟨_,_,_⟩) sends serves

end Exchange

namespace Handler

variable {σ : Type} {service : Service} {h h' : Handler σ}

/-- The thread has read its request, or its frame. -/
def Later (h : Handler σ) : Prop :=
  match h.thread with
  | .entered _ | .reading _ _ | .readingPrefix _ | .readingBody _ _ => False
  | _ => True

/-- Where a call of `serve_connection` stands in its input: before the length, behind it, or, unless
it has refused the length, behind a payload that is not too large. -/
def Framing (presented : String) (input : List UInt8) (h : Handler σ) : Prop :=
  match h.thread with
  | .entered entry => entry = .connection presented ∧ h.unread = input
  | .readingPrefix token => token = presented ∧ h.unread = input
  | .readingBody token length => token = presented ∧ length ++ h.unread = input ∧
      length.length = 4 ∧ fromBeBytes length ≤ MAX_FRAME_BYTES
  | .reading _ _ => False
  | .done _ => input.drop 4 <:+ h.unread ∨ fromBeBytes (input.take 4) ≤ MAX_FRAME_BYTES
  | _ => fromBeBytes (input.take 4) ≤ MAX_FRAME_BYTES

theorem framing_of_later {presented : String} {input : List UInt8} (later : h.Later)
    (fits : fromBeBytes (input.take 4) ≤ MAX_FRAME_BYTES) : h.Framing presented input := by
  unfold Later at later
  unfold Framing
  cases here : h.thread with
  | entered | reading | readingPrefix | readingBody =>
    rw [here] at later
    exact later.elim
  | done => exact .inr fits
  | _ => exact fits

theorem reply_later (writes : Bool) (response : ServerResponse) (h : Handler σ) :
    (h.reply service writes response).Later := by
  unfold reply
  cases Frame.encode service.responses response with
  | error error => trivial
  | ok frame => cases writes <;> trivial

theorem dispatchRequest_later (writes : Bool) (request : ClientRequest) (h : Handler σ) :
    (h.dispatchRequest service writes request).1.Later := by
  unfold dispatchRequest
  dsimp only
  split
  · exact reply_later _ _ _
  · trivial

theorem handleAuthenticatedFrame_later (writes : Bool) (presented : String) (frame : List UInt8)
    (h : Handler σ) : (h.handleAuthenticatedFrame service writes presented frame).1.Later := by
  unfold handleAuthenticatedFrame
  split
  · trivial
  · trivial
  · exact dispatchRequest_later _ _ _

theorem written_later (rest : List Frame) (channel : Option ChannelId) (h : Handler σ) :
    (h.written rest channel).Later := by
  cases rest with
  | cons frame rest => trivial
  | nil => cases channel <;> trivial

theorem leave_later (channel : Option ChannelId) (ending : Except DaemonError (List UInt8))
    (h : Handler σ) : (h.leave channel ending).Later := by
  cases channel <;> trivial

theorem deliver_later (channel : ChannelId) (received : Received StreamMessage) (h : Handler σ) :
    (h.deliver service channel received).Later := by
  unfold deliver
  split
  · split
    · trivial
    · exact leave_later _ _ _
  · exact leave_later _ _ _

theorem step_framing [StateRepository σ] {presented : String} {input : List UInt8}
    {a : ThreadAction} {o : Output} (framing : h.Framing presented input)
    (hs : h.step service a = some (h', o)) : h'.Framing presented input := by
  unfold Framing at framing
  cases step_moved hs with
  | others b session output steps => exact framing
  | entered entry here =>
    rw [here] at framing
    obtain ⟨rfl, unread⟩ := framing
    exact ⟨rfl, unread⟩
  | read busy program result late r here reads =>
    rw [here] at framing
    exact framing.elim
  | prefixFails token error here =>
    rw [here] at framing
    refine .inl ?_
    change input.drop 4 <:+ h.unread
    rw [framing.2]
    exact List.drop_suffix _ _
  | bodyFails token length error here =>
    rw [here] at framing
    obtain ⟨_, split, four, fits⟩ := framing
    refine .inr ?_
    rw [← split, List.take_left' four]
    exact fits
  | refused token error here enough large =>
    rw [here] at framing
    obtain ⟨rfl, rfl⟩ := framing
    exact .inl (List.suffix_refl _)
  | length token here enough valid =>
    rw [here] at framing
    obtain ⟨rfl, rfl⟩ := framing
    refine ⟨rfl, List.take_append_drop 4 _, List.length_take_of_le enough, ?_⟩
    by_contra large
    unfold validateFrameSize at valid
    rw [if_pos (Nat.lt_of_not_le large)] at valid
    cases valid
  | body token length unread here enough rest =>
    rw [here] at framing
    obtain ⟨_, split, four, fits⟩ := framing
    have declared : fromBeBytes (input.take 4) ≤ MAX_FRAME_BYTES := by
      rw [← split, List.take_left' four]
      exact fits
    exact framing_of_later (handleAuthenticatedFrame_later _ _ _ _) declared
  | called writes flag b session output here steps silent =>
    unfold Framing
    rw [here] at framing ⊢
    exact framing
  | answered writes flag b session output response here steps answer =>
    rw [here] at framing
    exact framing_of_later (reply_later _ _ _) framing
  | write left rest channel count here =>
    rw [here] at framing
    exact framing
  | written rest channel here =>
    rw [here] at framing
    exact framing_of_later (written_later _ _ _) framing
  | writeFails left rest channel error here =>
    rw [here] at framing
    exact framing_of_later (leave_later _ _ _) framing
  | received channel ch session output message here steps brought =>
    rw [here] at framing
    exact framing_of_later (deliver_later _ _ _) framing
  | dropped channel ending session output here steps =>
    rw [here] at framing
    exact .inr framing

theorem run_framing [StateRepository σ] {session : World σ} {presented : String}
    {input : List UInt8} {tr : List (ThreadAction × Output)}
    (run : (handler service σ).Run Machine.anyStep (.start session (.connection presented) input)
      tr h) : h.Framing presented input :=
  run.invariant ⟨rfl, rfl⟩ fun _ _ _ _ framing _ hs => step_framing framing hs

theorem Framing.refused {presented : String} {input : List UInt8}
    (framing : h.Framing presented input) (large : MAX_FRAME_BYTES < fromBeBytes (input.take 4)) :
    input.drop 4 <:+ h.unread := by
  unfold Framing at framing
  cases here : h.thread with
  | entered entry =>
    rw [here] at framing
    rw [framing.2]
    exact List.drop_suffix _ _
  | readingPrefix token =>
    rw [here] at framing
    rw [framing.2]
    exact List.drop_suffix _ _
  | readingBody token length =>
    rw [here] at framing
    obtain ⟨_, split, four, fits⟩ := framing
    rw [← split, List.take_left' four] at large
    omega
  | reading busy program =>
    rw [here] at framing
    exact framing.elim
  | done ending =>
    rw [here] at framing
    rcases framing with left | fits
    · exact left
    · omega
  | _ =>
    rw [here] at framing
    dsimp only at framing
    omega

/-- What `serve_connection` hands on is the first frame of its input. -/
theorem body_handed [StateRepository σ] {presented token : String} {input length : List UInt8}
    {o : Output} (framing : h.Framing presented input) (here : h.thread = .readingBody token length)
    (hs : h.step service (.readExact none) = some (h', o)) :
    ∃ frame rest, WellFramed frame ∧ input = frame ++ rest ∧
      (h', o) = { h with unread := rest }.handleAuthenticatedFrame service true presented frame := by
  simp only [Framing, here] at framing
  obtain ⟨rfl, split, four, fits⟩ := framing
  simp only [step, here] at hs
  split_ifs at hs with enough
  refine ⟨length ++ h.unread.take (fromBeBytes length), h.unread.drop (fromBeBytes length), ?_, ?_,
    (Option.some.inj hs).symm⟩
  · exact wellFramed_append four fits (List.length_take_of_le enough)
  · rw [List.append_assoc, List.take_append_drop, split]

end Handler

/-- Partial I/O makes no difference, whatever the passes and the turns. -/
structure Invisible (client : RequestClient) (service : Service) : Prop where
  /-- `write_all_with_timeout` delivers its buffer. -/
  writes : ∀ bytes timeout,
    (Duplex.solo [] (.writeAll bytes timeout .done)).Settles () bytes (.ok ()) []
  /-- `read_exact_with_timeout` takes the next bytes and no more. -/
  reads : ∀ size timeout stream, size ≤ stream.length →
    (Duplex.solo stream (.readExact size timeout .done)).Settles () []
      (.ok (stream.take size)) (stream.drop size)
  /-- `read_authenticated_request` takes the token and the frame. -/
  requests : ∀ request frame rest timeout, encodeFrame client.requests request = .ok frame →
    (Duplex.solo (utf8 client.launchToken ++ frame ++ rest)
        ((service.daemon.readAuthenticatedRequest timeout).andThen .done)).Settles () []
      (service.daemon.authenticate (.ok (client.launchToken, frame))) rest ∧
    (request.Built → service.daemon.launchToken.matchesHex client.launchToken = .ok true →
      service.daemon.authenticate (.ok (client.launchToken, frame)) = .ok (.ok request))
  /-- `send_request` sends the token and the frame, and takes the first frame that it is sent. -/
  sendRequest : ∀ request frame payload rest, encodeFrame client.requests request = .ok frame →
    payload.length ≤ MAX_FRAME_BYTES →
    (Duplex.solo (frameOf payload ++ rest) (client.sendRequest request)).Settles ()
      (utf8 client.launchToken ++ frame)
      ((decodeServerResponseFrame client.client.responses (frameOf payload)).mapError .protocol) rest
  /-- And so it gets the response of `serve_local_stream`. -/
  responses : ∀ request frame dispatchRequest reply messages timeout,
    encodeFrame client.requests request = .ok frame → request.Built →
    service.daemon.launchToken.matchesHex client.launchToken = .ok true →
    Frame.encode service.responses (dispatchRequest request) = .ok reply →
    (dispatchRequest request).Built →
    (Duplex.new (client.sendRequest request)
        (service.daemon.serveLocalStream service.responses timeout dispatchRequest messages)).Settles
      (.ok (dispatchRequest request))
      ((behind request messages).map fun frame => frameOf frame.payload).flatten (.ok (.ok ())) []
  /-- The frames handed to a decoder have the right length. -/
  decodes : ∀ (α : Type) (json : SerdeJson α) frame, WellFramed frame →
    decodeFrame json frame = (json.fromSlice (frame.drop 4)).mapError .malformedJson
  receiveRequest : ∀ timeout ts, RequestRun timeout ((receiveRequest timeout).run ts)
  receiveResponse : ∀ timeout ts,
    FrameRun timeout (RequestClient.decodeResponse client.client.responses)
      ((RequestClient.receiveResponse client.client.responses timeout).run ts)
  readNextMessage : ∀ timeout ts, FrameRun timeout (decodeMessage client.client.messages)
    ((readNextMessage client.client.messages timeout).run ts)
  subscribeReads : ∀ timeout ts,
    FrameRun timeout (takeReady client.client.responses client.client.messages timeout)
      ((subscribeReads client.client.responses client.client.messages timeout).run ts)
  snapshotReads : ∀ timeout streamId ts,
    FrameRun timeout (takeSnapshot client.client.messages streamId)
      ((readFrame timeout (takeSnapshot client.client.messages streamId)).run ts)
  serveConnection : ∀ (σ : Type) [StateRepository σ] (session : World σ) presented input tr h,
    (handler service σ).Run Machine.anyStep (.start session (.connection presented) input) tr h →
      (MAX_FRAME_BYTES < fromBeBytes (input.take 4) → input.drop 4 <:+ h.unread) ∧
      ∀ token length h' o, h.thread = .readingBody token length →
        h.step service (.readExact none) = some (h', o) →
          ∃ frame rest, WellFramed frame ∧ input = frame ++ rest ∧ (h', o) =
            { h with unread := rest }.handleAuthenticatedFrame service true presented frame
  /-- No reader takes a byte behind a length that is too large. -/
  refusesRequest : ∀ token length rest timeout, (utf8 token).length = 64 → length.length = 4 →
    MAX_FRAME_BYTES < fromBeBytes length →
    (Duplex.solo (utf8 token ++ length ++ rest)
        ((service.daemon.readAuthenticatedRequest timeout).andThen .done)).Settles () []
      (.ok (.error (.frameTooLarge (fromBeBytes length) MAX_FRAME_BYTES))) rest
  refusesFrame : ∀ (α : Type) timeout next length rest, length.length = 4 →
    MAX_FRAME_BYTES < fromBeBytes length →
    (Duplex.solo (length ++ rest)
        ((readFrame timeout next).andThen (.done (α := Except HostError α)))).Settles () []
      (.error (.protocol (.frameTooLarge (fromBeBytes length) MAX_FRAME_BYTES))) rest

/-- Partial I/O is invisible. -/
theorem partial_io_invisible {client : RequestClient} {service : Service}
    (lawful₁ : client.requests.Lawful) (lawful₂ : service.daemon.requests.Lawful)
    (lawful₃ : service.responses.Lawful) (lawful₄ : client.client.responses.Lawful) :
    Invisible client service where
  writes bytes timeout := by
    have all : (Program.writeAll bytes timeout .done).outcome [] =
        some ⟨.ok (),[],bytes ++ []⟩ := rfl
    have settles := Duplex.solo_settles all
    rwa [List.append_nil] at settles
  reads size timeout stream enough := by
    have all : (Program.readExact size timeout .done).outcome stream =
        some ⟨.ok (stream.take size),stream.drop size,[]⟩ := if_pos enough
    exact Duplex.solo_settles all
  requests request frame rest timeout encoded := by
    obtain ⟨framed, decodes⟩ := encoded_request lawful₁ lawful₂ encoded
    refine ⟨?_, fun built accepted => authenticate_ok accepted (decodes built)⟩
    have read := @consume_readAuthenticatedRequest service.daemon timeout _ _
      client.launchToken_length framed rest
    apply Duplex.solo_settles (o := ⟨_,_,[]⟩)
    rw [Reads.outcome_andThen, read]
    rfl
  sendRequest request frame payload rest encoded fits :=
    Duplex.solo_settles (client.outcome_sendRequest encoded fits rest)
  responses request frame dispatchRequest reply messages timeout encoded built accepted encoded'
      built' :=
    exchange_settles lawful₁ lawful₂ lawful₃ lawful₄ encoded built accepted encoded' built' messages
  decodes α json frame framed := decodeFrame_wellFramed json framed
  receiveRequest := receiveRequest_run
  receiveResponse timeout ts := readFrame_run timeout _ ts
  readNextMessage timeout ts := readFrame_run timeout _ ts
  subscribeReads timeout ts := readFrame_run timeout _ ts
  snapshotReads timeout streamId ts := readFrame_run timeout _ ts
  serveConnection σ _ session presented input tr h run := by
    have framing := Handler.run_framing run
    refine ⟨framing.refused, ?_⟩
    intro token length h' o here hs
    exact Handler.body_handed framing here hs
  refusesRequest token length rest timeout hex four large := by
    apply Duplex.solo_settles (o := ⟨_,_,[]⟩)
    unfold Daemon.readAuthenticatedRequest
    rw [Reads.outcome_andThen, Reads.consume_map, consume_receiveRequest_large hex four large]
    rfl
  refusesFrame α timeout next length rest four large := by
    apply Duplex.solo_settles (o := ⟨_,_,[]⟩)
    rw [Reads.outcome_andThen, consume_readFrame_large four large]
    rfl

/-- A client of the service with a token of 64 zeros. -/
def jsonClient : RequestClient where
  client := ⟨serdeJson ServerResponse,serdeJson StreamMessage,5000⟩
  requests := serdeJson ClientRequest
  launchToken := zeroToken
  parses := ⟨zeroDaemon.launchToken, by decide +kernel⟩
  timeout_ne := by decide

def healthRequest : ClientRequest := ⟨PROTOCOL_VERSION,"a",.health,none⟩

def healthResponse (request : ClientRequest) : ServerResponse :=
  .success request.requestId (.health .ready PROTOCOL_VERSION)

/-- Seven bytes at a time, and every third pass is interrupted. -/
def sevens (n : Nat) : Pass :=
  ⟨if n % 2 = 0 then .client else .server,if n % 3 = 0 then .interrupted else .bytes 7,0⟩

/-- A health request that is sent, and answered, in pieces. -/
theorem partial_io_invisible_health :
    ((Duplex.new (jsonClient.sendRequest healthRequest)
        (jsonService.daemon.serveLocalStream jsonService.responses 5000 healthResponse
          [])).after sevens 160).client.run = .inr (.ok (healthResponse healthRequest)) := by
  have onTime : (Duplex.new (jsonClient.sendRequest healthRequest)
      (jsonService.daemon.serveLocalStream jsonService.responses 5000 healthResponse
        [])).OnTime sevens 160 := by
    decide +kernel
  have done : ((Duplex.new (jsonClient.sendRequest healthRequest)
      (jsonService.daemon.serveLocalStream jsonService.responses 5000 healthResponse
        [])).after sevens 160).client.run.isRight = true := by
    decide +kernel
  obtain ⟨result, returned⟩ := Sum.isRight_iff.mp done
  have small : Fits healthRequest ∧ Fits (healthResponse healthRequest) := by decide +kernel
  have lawful : jsonClient.requests.Lawful := serdeJson_lawful
  have lawful' : jsonService.responses.Lawful := serdeJson_lawful
  have accepted : jsonService.daemon.launchToken.matchesHex jsonClient.launchToken = .ok true := by
    decide +kernel
  have encoded := (encodeFrame_lawful lawful healthRequest).trans (if_pos small.1)
  obtain ⟨reply, encoded'⟩ := encode_of_fits lawful' small.2
  have invisible : Invisible jsonClient jsonService :=
    partial_io_invisible serdeJson_lawful serdeJson_lawful serdeJson_lawful serdeJson_lawful
  have settles := invisible.responses healthRequest _ healthResponse reply [] 5000 encoded
    ⟨"a",.health,none,rfl⟩ accepted encoded' (.success _ _)
  have same := (settles.client sevens 160 result onTime returned).1
  rw [returned, same]

end Kesharon.Server

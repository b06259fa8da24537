import Kesharon.Daemon.SessionMachine
import Kesharon.Ipc.Feed
import Kesharon.Protocol.Codec
import Kesharon.Server.Authentication

namespace Kesharon.Server

open Framework Application Kesharon.Daemon Ipc Protocol

/-- A daemon with its session: its token, how it reads requests, how it encodes what it sends, and
the id of its stream. -/
structure Service where
  daemon : Daemon
  responses : SerdeJson ServerResponse
  messages : SerdeJson StreamMessage
  streamId : String

/-- The ways in which a request comes in: `handle_authenticated_frame`, `serve_connection`, and a
local connection on the served path or on the busy one. -/
inductive Entry where
  | frame (presented : String) (frame : List UInt8)
  | connection (presented : String)
  | served (timeout : Nat)
  | busy (timeout : Nat)

/-- How a thread ends: with a panic, an error, or what `handle_authenticated_frame` returns; the
others return nothing. -/
abbrev Ending := Except Panic (Except DaemonError (List UInt8))

/-- Where the thread of a request stands. -/
inductive Thread where
  | entered (entry : Entry)
  | reading (busy : Bool) (program : Blocked RequestRead)
  | readingPrefix (presented : String)
  | readingBody (presented : String) (length : List UInt8)
  | opening (writes : Bool) (flag : FlagId)
  | writing (left : List UInt8) (rest : List Frame) (channel : Option ChannelId)
  | receiving (channel : ChannelId)
  | returning (channel : ChannelId) (ending : Except DaemonError (List UInt8))
  | done (ending : Ending)

inductive ThreadAction where
  | enter
  | read (result : WireRead) (late : Nat)
  | readExact (error : Option IoError)
  | call (a : Action)
  | write (count : Nat)
  | written
  | writeFails (error : IoError)
  | recv
  | drop
  | others (a : Action)

/-- The step is one of this call of `open_project`. -/
def ofCall (flag : FlagId) : Action → Bool
  | .firstCheck f | .inspectReturns f _ | .secondCheck f _ | .finish f => f = flag
  | _ => false

/-- The step uses this receiver. -/
def ofReceiver (channel : ChannelId) : Action → Bool
  | .recv ch | .hangUp ch => ch = channel
  | _ => false

/-- The steps of a session that only this thread takes. -/
def Thread.owns : Thread → Action → Bool
  | .opening _ flag, a => ofCall flag a
  | .writing _ _ (some channel), a | .receiving channel, a | .returning channel _, a =>
    ofReceiver channel a
  | _, _ => false

def sessionErrorDebug : SessionError → String
  | .stateUnavailable => "StateUnavailable"
  | .sequenceExhausted => "SequenceExhausted"

/-- The bytes of a request that come in, the session it is for, and the bytes that go out. -/
structure Handler (σ : Type) where
  session : World σ
  thread : Thread
  unread : List UInt8
  output : List UInt8

namespace Handler

variable {σ : Type}

def start (session : World σ) (entry : Entry) (input : List UInt8) : Handler σ :=
  ⟨session,.entered entry,input,[]⟩

def finish (h : Handler σ) (ending : Except DaemonError (List UInt8)) : Handler σ :=
  { h with thread := .done (.ok ending) }

/-- Encode a response, to write it or to return it. -/
def reply (service : Service) (writes : Bool) (response : ServerResponse) (h : Handler σ) :
    Handler σ :=
  match Frame.encode service.responses response with
  | .error error => h.finish (.error (.protocol error.toString))
  | .ok frame =>
    if writes then { h with thread := .writing (frameOf frame.payload) [] none }
    else h.finish (.ok (frameOf frame.payload))

/-- `dispatch_request`; an open goes on in its own steps. -/
def dispatchRequest (service : Service) (writes : Bool) (request : ClientRequest)
    (h : Handler σ) : Handler σ × Output :=
  let (session, output) := h.session.dispatch service.streamId request
  match output.response with
  | some response => (({ h with session := session }).reply service writes response, output)
  | none =>
    ({ h with session := session, thread := .opening writes h.session.flagCount }, output)

/-- `serve_subscription`, up to where it begins to write. -/
def serveSubscription (service : Service) (request : ClientRequest) (h : Handler σ) :
    Handler σ × Output :=
  let (session, output) := h.session.subscribe service.streamId
  let h := { h with session := session }
  match output.subscribed with
  | none => (h, output)
  | some (.error error) => (h.finish (.error (.session (sessionErrorDebug error))), output)
  | some (.ok (snapshot, channel)) =>
    match Frame.encode service.responses
        (.success request.requestId (.subscriptionReady service.streamId)),
      Frame.encode service.messages (.snapshot snapshot) with
    | .error error, _ | _, .error error =>
      ({ h with thread := .returning channel (.error (.protocol error.toString)) }, output)
    | .ok ready, .ok snapshot =>
      ({ h with thread := .writing (frameOf ready.payload) [snapshot] (some channel) }, output)

def busyResponse (requestId : String) : ServerResponse :=
  .failure requestId .serverBusy "The daemon has reached its concurrent connection limit"

/-- What `serve_local_stream` and `reject_busy_connection` do behind the read of the request. -/
def serveRead (service : Service) (busy : Bool) (read : RequestRead) (h : Handler σ) :
    Handler σ × Output :=
  match read with
  | .error panic => ({ h with thread := .done (.error panic) }, {})
  | .ok (.error error) => (h.finish (.error error), {})
  | .ok (.ok request) =>
    if busy then (h.reply service true (busyResponse request.requestId), {})
    else if request.method = .subscribeEvents then h.serveSubscription service request
    else h.dispatchRequest service true request

def proceed (service : Service) (busy : Bool) (h : Handler σ) :
    Blocked RequestRead ⊕ RequestRead → Handler σ × Output
  | .inl program => ({ h with thread := .reading busy program }, {})
  | .inr read => h.serveRead service busy read

/-- `handle_authenticated_frame` -/
def handleAuthenticatedFrame (service : Service) (writes : Bool) (presented : String)
    (frame : List UInt8) (h : Handler σ) : Handler σ × Output :=
  match service.daemon.authenticate (.ok (presented, frame)) with
  | .error panic => ({ h with thread := .done (.error panic) }, {})
  | .ok (.error error) => (h.finish (.error error), {})
  | .ok (.ok request) => h.dispatchRequest service writes request

def enter (service : Service) (h : Handler σ) : Entry → Handler σ × Output
  | .frame presented frame => h.handleAuthenticatedFrame service false presented frame
  | .connection presented => ({ h with thread := .readingPrefix presented }, {})
  | .served timeout =>
    h.proceed service false (service.daemon.readAuthenticatedRequest timeout).start
  | .busy timeout => h.proceed service true (service.daemon.readAuthenticatedRequest timeout).start

/-- Behind a frame comes the next one; a subscription waits for messages. -/
def written (h : Handler σ) (rest : List Frame) (channel : Option ChannelId) : Handler σ :=
  match rest, channel with
  | frame :: rest, channel => { h with thread := .writing (frameOf frame.payload) rest channel }
  | [], some channel => { h with thread := .receiving channel }
  | [], none => h.finish (.ok [])

/-- The thread returns, and drops the receiver it has. -/
def leave (h : Handler σ) (channel : Option ChannelId)
    (ending : Except DaemonError (List UInt8)) : Handler σ :=
  match channel with
  | some channel => { h with thread := .returning channel ending }
  | none => h.finish ending

def deliver (service : Service) (channel : ChannelId) (h : Handler σ) :
    Received StreamMessage → Handler σ
  | .message message =>
    match Frame.encode service.messages message with
    | .ok frame => { h with thread := .writing (frameOf frame.payload) [] (some channel) }
    | .error error => h.leave (some channel) (.error (.protocol error.toString))
  | .disconnected => h.leave (some channel) (.ok [])

def step [StateRepository σ] (service : Service) (h : Handler σ) :
    ThreadAction → Option (Handler σ × Output)
  | .enter =>
    match h.thread with
    | .entered entry => some (h.enter service entry)
    | _ => none
  | .read result late =>
    match h.thread with
    | .reading busy program =>
      (readStream h.unread program.call.need result).map fun r =>
        ({ h with unread := r.2 }).proceed service busy (program.turn ⟨r.1,late⟩)
    | _ => none
  | .readExact (some error) =>
    match h.thread with
    | .readingPrefix _ | .readingBody _ _ => some (h.finish (.error (.io error.message)), {})
    | _ => none
  | .readExact none =>
    match h.thread with
    | .readingPrefix presented =>
      if 4 ≤ h.unread.length then
        let length := h.unread.take 4
        let h := { h with unread := h.unread.drop 4 }
        match validateFrameSize (fromBeBytes length) with
        | .error error => some (h.finish (.error error), {})
        | .ok () => some ({ h with thread := .readingBody presented length }, {})
      else none
    | .readingBody presented length =>
      let size := fromBeBytes length
      if size ≤ h.unread.length then
        some (({ h with unread := h.unread.drop size }).handleAuthenticatedFrame service true
          presented (length ++ h.unread.take size))
      else none
    | _ => none
  | .call a =>
    match h.thread with
    | .opening writes flag =>
      if ofCall flag a then
        (h.session.step service.streamId a).map fun r =>
          match r.2.response with
          | some response => (({ h with session := r.1 }).reply service writes response, r.2)
          | none => ({ h with session := r.1 }, r.2)
      else none
    | _ => none
  | .write count =>
    match h.thread with
    | .writing left rest channel =>
      some ({ h with
        thread := .writing (left.drop count) rest channel
        output := h.output ++ left.take count }, {})
    | _ => none
  | .written =>
    match h.thread with
    | .writing [] rest channel => some (h.written rest channel, {})
    | _ => none
  | .writeFails error =>
    match h.thread with
    | .writing _ _ channel => some (h.leave channel (.error (.io error.message)), {})
    | _ => none
  | .recv =>
    match h.thread with
    | .receiving channel =>
      (h.session.step service.streamId (.recv channel)).bind fun r =>
        r.2.received.map fun received =>
          (({ h with session := r.1 }).deliver service channel received.2, r.2)
    | _ => none
  | .drop =>
    match h.thread with
    | .returning channel ending =>
      (h.session.step service.streamId (.hangUp channel)).map fun r =>
        (({ h with session := r.1 }).finish ending, r.2)
    | _ => none
  | .others a =>
    if h.thread.owns a then none
    else (h.session.step service.streamId a).map fun r => ({ h with session := r.1 }, r.2)

/-- Everything one step of a thread can do. -/
inductive Moved [StateRepository σ] (service : Service) (h : Handler σ) :
    ThreadAction → Handler σ → Output → Prop where
  | entered (entry : Entry) (here : h.thread = .entered entry) :
      Moved service h .enter (h.enter service entry).1 (h.enter service entry).2
  | read (busy : Bool) (program : Blocked RequestRead) (result : WireRead) (late : Nat)
      (r : ReadResult × List UInt8) (here : h.thread = .reading busy program)
      (reads : readStream h.unread program.call.need result = some r) :
      Moved service h (.read result late)
        ({ h with unread := r.2 }.proceed service busy (program.turn ⟨r.1,late⟩)).1
        ({ h with unread := r.2 }.proceed service busy (program.turn ⟨r.1,late⟩)).2
  | prefixFails (presented : String) (error : IoError)
      (here : h.thread = .readingPrefix presented) :
      Moved service h (.readExact (some error)) (h.finish (.error (.io error.message))) {}
  | bodyFails (presented : String) (length : List UInt8) (error : IoError)
      (here : h.thread = .readingBody presented length) :
      Moved service h (.readExact (some error)) (h.finish (.error (.io error.message))) {}
  | refused (presented : String) (error : DaemonError)
      (here : h.thread = .readingPrefix presented) (enough : 4 ≤ h.unread.length)
      (large : validateFrameSize (fromBeBytes (h.unread.take 4)) = .error error) :
      Moved service h (.readExact none)
        ({ h with unread := h.unread.drop 4 }.finish (.error error)) {}
  | length (presented : String) (here : h.thread = .readingPrefix presented)
      (enough : 4 ≤ h.unread.length)
      (valid : validateFrameSize (fromBeBytes (h.unread.take 4)) = .ok ()) :
      Moved service h (.readExact none)
        { h with
          thread := .readingBody presented (h.unread.take 4)
          unread := h.unread.drop 4 } {}
  | body (presented : String) (length : List UInt8) (unread : List UInt8)
      (here : h.thread = .readingBody presented length)
      (enough : fromBeBytes length ≤ h.unread.length)
      (rest : unread = h.unread.drop (fromBeBytes length)) :
      Moved service h (.readExact none)
        ({ h with unread := unread }.handleAuthenticatedFrame service true presented
          (length ++ h.unread.take (fromBeBytes length))).1
        ({ h with unread := unread }.handleAuthenticatedFrame service true presented
          (length ++ h.unread.take (fromBeBytes length))).2
  | called (writes : Bool) (flag : FlagId) (a : Action) (session : World σ) (output : Output)
      (here : h.thread = .opening writes flag)
      (steps : h.session.step service.streamId a = some (session, output))
      (silent : output.response = none) :
      Moved service h (.call a) { h with session := session } output
  | answered (writes : Bool) (flag : FlagId) (a : Action) (session : World σ) (output : Output)
      (response : ServerResponse) (here : h.thread = .opening writes flag)
      (steps : h.session.step service.streamId a = some (session, output))
      (answer : output.response = some response) :
      Moved service h (.call a) ({ h with session := session }.reply service writes response) output
  | write (left : List UInt8) (rest : List Frame) (channel : Option ChannelId) (count : Nat)
      (here : h.thread = .writing left rest channel) :
      Moved service h (.write count)
        { h with
          thread := .writing (left.drop count) rest channel
          output := h.output ++ left.take count } {}
  | written (rest : List Frame) (channel : Option ChannelId)
      (here : h.thread = .writing [] rest channel) :
      Moved service h .written (h.written rest channel) {}
  | writeFails (left : List UInt8) (rest : List Frame) (channel : Option ChannelId)
      (error : IoError) (here : h.thread = .writing left rest channel) :
      Moved service h (.writeFails error) (h.leave channel (.error (.io error.message))) {}
  | received (channel ch : ChannelId) (session : World σ) (output : Output)
      (message : Received StreamMessage) (here : h.thread = .receiving channel)
      (steps : h.session.step service.streamId (.recv channel) = some (session, output))
      (brought : output.received = some (ch, message)) :
      Moved service h .recv ({ h with session := session }.deliver service channel message) output
  | dropped (channel : ChannelId) (ending : Except DaemonError (List UInt8)) (session : World σ)
      (output : Output) (here : h.thread = .returning channel ending)
      (steps : h.session.step service.streamId (.hangUp channel) = some (session, output)) :
      Moved service h .drop ({ h with session := session }.finish ending) output
  | others (a : Action) (session : World σ) (output : Output)
      (steps : h.session.step service.streamId a = some (session, output)) :
      Moved service h (.others a) { h with session := session } output

theorem step_moved [StateRepository σ] {service : Service} {h h' : Handler σ} {a : ThreadAction}
    {o : Output} (hs : h.step service a = some (h', o)) : Moved service h a h' o := by
  have same {d : Handler σ × Output} (made : d = (h', o)) (moved : Moved service h a d.1 d.2) :
      Moved service h a h' o := by
    subst made
    exact moved
  cases a with
  | enter =>
    cases here : h.thread with
    | entered entry =>
      simp only [step, here] at hs
      exact same (Option.some.inj hs) (.entered entry here)
    | _ => simp [step, here] at hs
  | read result late =>
    cases here : h.thread with
    | reading busy program =>
      simp only [step, here] at hs
      obtain ⟨r, reads, made⟩ := Option.map_eq_some_iff.mp hs
      rw [← here] at made
      exact same made (.read busy program result late r here reads)
    | _ => simp [step, here] at hs
  | readExact error =>
    cases error with
    | some error =>
      cases here : h.thread with
      | readingPrefix presented =>
        simp only [step, here] at hs
        exact same (Option.some.inj hs) (.prefixFails presented error here)
      | readingBody presented length =>
        simp only [step, here] at hs
        exact same (Option.some.inj hs) (.bodyFails presented length error here)
      | _ => simp [step, here] at hs
    | none =>
      cases here : h.thread with
      | readingPrefix presented =>
        simp only [step, here] at hs
        split_ifs at hs with enough
        cases valid : validateFrameSize (fromBeBytes (h.unread.take 4)) with
        | error error =>
          simp only [valid] at hs
          exact same (Option.some.inj hs) (.refused presented error here enough valid)
        | ok u =>
          simp only [valid] at hs
          exact same (Option.some.inj hs) (.length presented here enough valid)
      | readingBody presented length =>
        simp only [step, here] at hs
        split_ifs at hs with enough
        exact same (Option.some.inj hs) (.body presented length _ here enough rfl)
      | _ => simp [step, here] at hs
  | call a =>
    cases here : h.thread with
    | opening writes flag =>
      simp only [step, here] at hs
      split_ifs at hs
      obtain ⟨⟨session, output⟩, steps, made⟩ := Option.map_eq_some_iff.mp hs
      cases answer : output.response with
      | some response =>
        simp only [answer] at made
        exact same made (.answered writes flag a session output response here steps answer)
      | none =>
        simp only [answer, ← here] at made
        exact same made (.called writes flag a session output here steps answer)
    | _ => simp [step, here] at hs
  | write count =>
    cases here : h.thread with
    | writing left rest channel =>
      simp only [step, here] at hs
      exact same (Option.some.inj hs) (.write left rest channel count here)
    | _ => simp [step, here] at hs
  | written =>
    cases here : h.thread with
    | writing left rest channel =>
      cases left with
      | nil =>
        simp only [step, here] at hs
        exact same (Option.some.inj hs) (.written rest channel here)
      | cons byte left => simp [step, here] at hs
    | _ => simp [step, here] at hs
  | writeFails error =>
    cases here : h.thread with
    | writing left rest channel =>
      simp only [step, here] at hs
      exact same (Option.some.inj hs) (.writeFails left rest channel error here)
    | _ => simp [step, here] at hs
  | recv =>
    cases here : h.thread with
    | receiving channel =>
      simp only [step, here] at hs
      obtain ⟨⟨session, output⟩, steps, hs⟩ := Option.bind_eq_some_iff.mp hs
      obtain ⟨⟨ch, message⟩, brought, made⟩ := Option.map_eq_some_iff.mp hs
      exact same made (.received channel ch session output message here steps brought)
    | _ => simp [step, here] at hs
  | drop =>
    cases here : h.thread with
    | returning channel ending =>
      simp only [step, here] at hs
      obtain ⟨⟨session, output⟩, steps, made⟩ := Option.map_eq_some_iff.mp hs
      exact same made (.dropped channel ending session output here steps)
    | _ => simp [step, here] at hs
  | others a =>
    simp only [step] at hs
    split_ifs at hs
    obtain ⟨⟨session, output⟩, steps, made⟩ := Option.map_eq_some_iff.mp hs
    exact same made (.others a session output steps)

end Handler

def handler (service : Service) (σ : Type) [StateRepository σ] :
    Machine (Handler σ) ThreadAction Output :=
  ⟨Handler.step service⟩

/-- A daemon that reads and writes JSON, with a token of 64 zeros. -/
def jsonService : Service where
  daemon := { zeroDaemon with requests := serdeJson ClientRequest }
  responses := serdeJson ServerResponse
  messages := serdeJson StreamMessage
  streamId := "s"

/-- The steps of a trace that other threads take. -/
def othersTrace (tr : List (ThreadAction × Output)) : List (Action × Output) :=
  tr.filterMap fun p =>
    match p.1 with
    | .others a => some (a, p.2)
    | _ => none

theorem othersTrace_append (xs ys : List (ThreadAction × Output)) :
    othersTrace (xs ++ ys) = othersTrace xs ++ othersTrace ys :=
  List.filterMap_append

theorem othersTrace_own {a : ThreadAction} (own : ∀ b, a ≠ .others b) (o : Output) :
    othersTrace [(a, o)] = [] := by
  cases a with
  | others b => exact absurd rfl (own b)
  | _ => rfl

end Kesharon.Server

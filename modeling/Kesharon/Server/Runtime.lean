import Kesharon.Framework.Machine
import Kesharon.Ipc.Reads
import Kesharon.Protocol.Frame
import Kesharon.Protocol.LaunchToken

namespace Kesharon.Server

open Framework Ipc Protocol

inductive DaemonError where
  | authenticationFailed
  | frameTooLarge (declared maximum : Nat)
  | io (message : String)
  | protocol (message : String)
  | session (message : String)
  deriving DecidableEq, Repr

def DaemonError.toString : DaemonError → String
  | .authenticationFailed => "launch authentication failed"
  | .frameTooLarge declared maximum =>
      "frame declares " ++ Nat.repr declared ++ " bytes; maximum is " ++ Nat.repr maximum
  | .io message => "I/O error: " ++ message
  | .protocol message => "protocol error: " ++ message
  | .session message => "session error: " ++ message

/-- The launch token of a daemon, and how it reads requests. -/
structure Daemon where
  launchToken : LaunchToken
  requests : SerdeJson ClientRequest

def validateFrameSize (declared : Nat) : Except DaemonError Unit :=
  if MAX_FRAME_BYTES < declared then .error (.frameTooLarge declared MAX_FRAME_BYTES)
  else .ok ()

/-- The reads of `read_authenticated_request`: the token's text and the frame behind it. -/
def receiveRequest (timeout : Nat) : Reads (Except DaemonError (String × List UInt8)) :=
  .readExact 64 timeout fun
    | .error error => .done (.error (.io error.message))
    | .ok token =>
      match String.fromUTF8? token.toByteArray with
      | none => .done (.error .authenticationFailed)
      | some token =>
        .readExact 4 timeout fun
          | .error error => .done (.error (.io error.message))
          | .ok length =>
            match validateFrameSize (fromBeBytes length) with
            | .error error => .done (.error error)
            | .ok () =>
              .readExact (fromBeBytes length) timeout fun
                | .error error => .done (.error (.io error.message))
                | .ok payload => .done (.ok (token, length ++ payload))

namespace Daemon

/-- What `read_authenticated_request` does with what it has read. -/
def authenticate (daemon : Daemon) :
    Except DaemonError (String × List UInt8) → Except Panic (Except DaemonError ClientRequest)
  | .error error => .ok (.error error)
  | .ok (token, frame) =>
    match daemon.launchToken.matchesHex token with
    | .error panic => .error panic
    | .ok false => .ok (.error .authenticationFailed)
    | .ok true =>
      .ok ((decodeClientRequestFrame daemon.requests frame).mapError
        fun error => .protocol error.toString)

def readAuthenticatedRequest (daemon : Daemon) (timeout : Nat) :
    Reads (Except Panic (Except DaemonError ClientRequest)) :=
  (receiveRequest timeout).map daemon.authenticate

end Daemon

def MAX_ACTIVE_CONNECTIONS : Nat := 8

/-- `io_timeout` of a runtime, in milliseconds. -/
def CONNECTION_TIMEOUT : Nat := 5000

/-- What `ServerRuntime::run` is doing. -/
inductive AcceptLoop where
  | running
  | stopped (error : DaemonError)
  | panicked (panic : Panic)
  deriving DecidableEq, Repr

/-- A runtime: its accept loop, and the connection workers that hold a permit, before and after
they have read their request. -/
structure ServerRuntime where
  acceptLoop : AcceptLoop
  reading : Nat
  serving : Nat
  deriving DecidableEq, Repr

inductive RuntimeAction where
  | acceptFails (error : IoError)
  | accept (spawned : Bool)
  | acceptBusy (turns : List Turn)
  | workerReads (turns : List Turn)
  | workerEnds

/-- How a read of a request ended. -/
abbrev RequestRead := Except Panic (Except DaemonError ClientRequest)

namespace ServerRuntime

def new : ServerRuntime := ⟨.running,0,0⟩

def activeConnections (s : ServerRuntime) : Nat := s.reading + s.serving

/-- `reject_busy_connection`, on the accept loop: an error is reported, a panic unwinds it. -/
def rejectBusy (s : ServerRuntime) : RequestRead → ServerRuntime
  | .error panic => { s with acceptLoop := .panicked panic }
  | .ok _ => s

/-- A worker goes on to serve its request, or gives its permit back. -/
def workerRead (s : ServerRuntime) : RequestRead → ServerRuntime
  | .ok (.ok _) => { s with reading := s.reading - 1, serving := s.serving + 1 }
  | _ => { s with reading := s.reading - 1 }

def step (daemon : Daemon) (s : ServerRuntime) :
    RuntimeAction → Option (ServerRuntime × Option RequestRead)
  | .acceptFails error =>
    if s.acceptLoop = .running then
      if error.kind = .timedOut then some (s, none)
      else some ({ s with acceptLoop := .stopped (.io error.message) }, none)
    else none
  | .accept spawned =>
    if s.acceptLoop = .running ∧ s.activeConnections < MAX_ACTIVE_CONNECTIONS then
      some (if spawned then { s with reading := s.reading + 1 } else s, none)
    else none
  | .acceptBusy turns =>
    if s.acceptLoop = .running ∧ MAX_ACTIVE_CONNECTIONS ≤ s.activeConnections then
      match (daemon.readAuthenticatedRequest CONNECTION_TIMEOUT).run turns with
      | .inl _ => none
      | .inr read => some (s.rejectBusy read, some read)
    else none
  | .workerReads turns =>
    if s.acceptLoop = .running ∧ 0 < s.reading then
      match (daemon.readAuthenticatedRequest CONNECTION_TIMEOUT).run turns with
      | .inl _ => none
      | .inr read => some (s.workerRead read, some read)
    else none
  | .workerEnds =>
    if s.acceptLoop = .running ∧ 0 < s.serving then
      some ({ s with serving := s.serving - 1 }, none)
    else none

/-- The steps of a runtime, all of them while its accept loop is running. -/
inductive Moves (daemon : Daemon) (s : ServerRuntime) :
    RuntimeAction → ServerRuntime → Option RequestRead → Prop where
  | acceptTimedOut {error : IoError} (late : error.kind = .timedOut) :
      Moves daemon s (.acceptFails error) s none
  | acceptFailed {error : IoError} (failed : error.kind ≠ .timedOut) :
      Moves daemon s (.acceptFails error)
        { s with acceptLoop := .stopped (.io error.message) } none
  | accepted (room : s.activeConnections < MAX_ACTIVE_CONNECTIONS) :
      Moves daemon s (.accept true) { s with reading := s.reading + 1 } none
  | spawnFailed (room : s.activeConnections < MAX_ACTIVE_CONNECTIONS) :
      Moves daemon s (.accept false) s none
  | busy {turns : List Turn} {read : RequestRead}
      (full : MAX_ACTIVE_CONNECTIONS ≤ s.activeConnections)
      (done : (daemon.readAuthenticatedRequest CONNECTION_TIMEOUT).run turns = .inr read) :
      Moves daemon s (.acceptBusy turns) (s.rejectBusy read) (some read)
  | workerRead {turns : List Turn} {read : RequestRead} (waiting : 0 < s.reading)
      (done : (daemon.readAuthenticatedRequest CONNECTION_TIMEOUT).run turns = .inr read) :
      Moves daemon s (.workerReads turns) (s.workerRead read) (some read)
  | workerEnded (serves : 0 < s.serving) :
      Moves daemon s .workerEnds { s with serving := s.serving - 1 } none

theorem step_moves {daemon : Daemon} {s s' : ServerRuntime} {a : RuntimeAction}
    {o : Option RequestRead} (h : s.step daemon a = some (s', o)) :
    s.acceptLoop = .running ∧ Moves daemon s a s' o := by
  cases a with
  | acceptFails error =>
    simp only [step] at h
    split_ifs at h with running late
    · obtain ⟨rfl, rfl⟩ := Prod.mk.inj (Option.some.inj h)
      exact ⟨running, .acceptTimedOut late⟩
    · obtain ⟨rfl, rfl⟩ := Prod.mk.inj (Option.some.inj h)
      exact ⟨running, .acceptFailed late⟩
  | accept spawned =>
    unfold step at h
    by_cases ready : s.acceptLoop = .running ∧ s.activeConnections < MAX_ACTIVE_CONNECTIONS
    · simp only [if_pos ready, Option.some.injEq, Prod.mk.injEq] at h
      obtain ⟨rfl, rfl⟩ := h
      cases spawned
      · exact ⟨ready.1, .spawnFailed ready.2⟩
      · exact ⟨ready.1, .accepted ready.2⟩
    · simp [if_neg ready] at h
  | acceptBusy turns =>
    simp only [step] at h
    split_ifs at h with ready
    cases done : (daemon.readAuthenticatedRequest CONNECTION_TIMEOUT).run turns with
    | inl blocked => simp [done] at h
    | inr read =>
      simp only [done, Option.some.injEq, Prod.mk.injEq] at h
      obtain ⟨rfl, rfl⟩ := h
      exact ⟨ready.1, .busy ready.2 done⟩
  | workerReads turns =>
    simp only [step] at h
    split_ifs at h with ready
    cases done : (daemon.readAuthenticatedRequest CONNECTION_TIMEOUT).run turns with
    | inl blocked => simp [done] at h
    | inr read =>
      simp only [done, Option.some.injEq, Prod.mk.injEq] at h
      obtain ⟨rfl, rfl⟩ := h
      exact ⟨ready.1, .workerRead ready.2 done⟩
  | workerEnds =>
    simp only [step] at h
    split_ifs at h with ready
    obtain ⟨rfl, rfl⟩ := Prod.mk.inj (Option.some.inj h)
    exact ⟨ready.1, .workerEnded ready.2⟩

end ServerRuntime

def serverRuntime (daemon : Daemon) :
    Machine ServerRuntime RuntimeAction (Option RequestRead) :=
  ⟨ServerRuntime.step daemon⟩

end Kesharon.Server

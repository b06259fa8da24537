import Kesharon.Host.FrameRead
import Kesharon.Host.Transport

namespace Kesharon.Host

open Framework Ipc Protocol

/-- A read that ends its call with `TimedOut`, with so many milliseconds until the deadline. -/
def timesOut (remaining late : Nat) : WireRead → Bool
  | .zero | .wouldBlock => remaining ≤ late
  | .failed error => error.kind = .timedOut
  | _ => false

/-- A read of a message times out after it has consumed a part of its frame. -/
def HostStream.cutShort (s : HostStream) (a : StreamAction) : Bool :=
  match a, s.call with
  | .turn read late, some (.reading b) =>
    s.started < s.wire.position ∧ timesOut b.call.remaining late read
  | _, _ => false

/-- Reads time out between frames only. -/
abbrev inTime (s : HostStream) (a : StreamAction) (_ : HostStream) : Prop := s.cutShort a = false

/-- The messages that reads of the present connection have returned. -/
def decodedStep (messages : List StreamMessage) (p : StreamAction × StreamOutput) :
    List StreamMessage :=
  match p.1, p.2.returned with
  | .connect, _ => []
  | _, some (.readReturns (.ok message)) => messages ++ [message]
  | _, _ => messages

def decoded (tr : List (StreamAction × StreamOutput)) : List StreamMessage :=
  tr.foldl decodedStep []

/-- From here the worker may go on to read from the connection it has. -/
def Location.MayRead : Location → Prop
  | .subscribed (.ok _) | .announcing _ | .loopCheck | .readCheck | .reading | .received (.ok _)
  | .forwarding _ | .recheckingClient | .checkingHealth => True
  | .received (.error error) => error.isTimedOut = true
  | _ => False

theorem StreamWorker.check_mayRead {w w' : StreamWorker} (h : w.check = some w')
    (after : w'.location.MayRead) : w.location.MayRead := by
  unfold check at h
  cases here : w.location with
  | subscribed result =>
    cases result with
    | ok subscription => trivial
    | error error =>
      simp only [here] at h
      split_ifs at h
      · obtain rfl := Option.some.inj h
        exact after.elim
      · obtain rfl := Option.some.inj h
        unfold disconnect at after
        split_ifs at after <;> exact after.elim
  | received result =>
    cases result with
    | ok message => trivial
    | error error =>
      simp only [here] at h
      split_ifs at h
      · obtain rfl := Option.some.inj h
        exact after.elim
      · obtain rfl := Option.some.inj h
        unfold handle at after
        dsimp only at after
        split_ifs at after with late
        · exact late
        · exact after.elim
  | loopCheck | readCheck => trivial
  | connectCheck | sleepCheck | subscribeCheck =>
    simp only [here, Option.some.injEq] at h
    rw [← h] at after
    cases hc : w.cancelled <;> simp [goTo, hc, Location.MayRead] at after
  | _ => simp [here] at h

/-- A worker's own step does not bring it back to a connection it has left. -/
theorem StreamWorker.step_mayRead {w w' : StreamWorker} {a : WorkerAction} {o : WorkerOutput}
    (h : w.step a = some (w', o)) (own : ∀ r, a ≠ .readReturns r)
    (refused : ∀ s, a ≠ .subscribeReturns (.ok s)) (after : w'.location.MayRead) :
    w.location.MayRead := by
  cases step_moves h with
  | cancelled => exact after
  | checked next => exact check_mayRead next after
  | clientFound here => exact after.elim
  | clientMissing here =>
    unfold disconnect at after
    split_ifs at after <;> exact after.elim
  | clientRechecked here | healthReturned here =>
    rw [here]
    trivial
  | subscribeReturned here result =>
    cases result with
    | ok subscription => exact absurd rfl (refused subscription)
    | error error => exact after.elim
  | sent delivered next =>
    unfold send at next
    cases here : w.location with
    | announcing | forwarding => trivial
    | reconnecting | lost =>
      simp only [here, Option.some.injEq, Prod.mk.injEq] at next
      obtain ⟨rfl, _⟩ := next
      exact after.elim
    | _ => simp [here] at next
  | woke here => exact after.elim
  | readReturned here result => exact absurd rfl (own result)

section FrameSteps

variable {α : Type} {timeout : Nat} {next : List UInt8 → Reads (Except HostError α)}
variable {c : List UInt8} {b : Blocked (Except HostError α)} {w w' : Wire} {k : Nat}
variable {read : WireRead} {result : ReadResult}

/-- A call ends with `TimedOut` by such reads only. -/
theorem timesOut_of_turn {call : ReadExact} {need late : Nat} {e : IoError}
    (met : w.read need read = some (result, w'))
    (failed : call.turn ⟨result,late⟩ = .inr (.error e)) (timed : e.kind = .timedOut) :
    timesOut call.remaining late read = true := by
  have waited (h : call.waitForIo late = .inr (.error e)) :
      decide (call.remaining ≤ late) = true := by
    unfold ReadExact.waitForIo at h
    split_ifs at h with passed
    exact decide_eq_true passed
  cases Wire.read_met met with
  | @bytes count chunk some =>
    exfalso
    cases chunk with
    | nil => exact some rfl
    | cons byte bytes =>
      simp only [ReadExact.turn, ReadExact.fill] at failed
      split_ifs at failed
      simp at failed
  | zero => exact waited failed
  | wouldBlock => exact waited failed
  | interrupted => simp [ReadExact.turn] at failed
  | failed error =>
    simp only [ReadExact.turn, Sum.inr.injEq, Except.error.injEq] at failed
    rw [failed]
    exact decide_eq_true timed

theorem turn_of_timesOut {call : ReadExact} {need late : Nat}
    (met : w.read need read = some (result, w')) (timed : timesOut call.remaining late read = true) :
    w' = w ∧ ∃ e, e.kind = .timedOut ∧ call.turn ⟨result,late⟩ = .inr (.error e) := by
  have waited (passed : decide (call.remaining ≤ late) = true) :
      call.waitForIo late = .inr (.error deadlineExceeded) :=
    if_pos (of_decide_eq_true passed)
  cases Wire.read_met met with
  | bytes => simp [timesOut] at timed
  | interrupted => simp [timesOut] at timed
  | zero => exact ⟨rfl, _, rfl, waited timed⟩
  | wouldBlock => exact ⟨rfl, _, rfl, waited timed⟩
  | failed error => exact ⟨rfl, error, of_decide_eq_true timed, rfl⟩

/-- A turn inside a frame goes on inside it, ends it, or fails and consumes nothing. -/
theorem InFrame.turn (frame : InFrame timeout next c b) (valid : w.Valid) (inside : w.Inside k c)
    (met : w.read b.call.need read = some (result, w')) (late : Nat) :
    (∃ c' b', b.turn ⟨result,late⟩ = .inl b' ∧ InFrame timeout next c' b' ∧ w'.Inside k c') ∨
      (∃ payload, w'.frames[k]? = some payload ∧ w'.Inside (k + 1) [] ∧
        b.turn ⟨result,late⟩ = (next (frameOf payload)).start) ∨
      ∃ e, w' = w ∧ b.turn ⟨result,late⟩ = .inr (.error (.io e)) ∧
        (e.kind = .timedOut → timesOut b.call.remaining late read = true) := by
  have idle (none : ∀ chunk, result = .ok chunk → chunk = []) (same : w' = w) :
      (∃ c' b', b.turn ⟨result,late⟩ = .inl b' ∧ InFrame timeout next c' b' ∧ w'.Inside k c') ∨
        (∃ payload, w'.frames[k]? = some payload ∧ w'.Inside (k + 1) [] ∧
          b.turn ⟨result,late⟩ = (next (frameOf payload)).start) ∨
        ∃ e, w' = w ∧ b.turn ⟨result,late⟩ = .inr (.error (.io e)) ∧
          (e.kind = .timedOut → timesOut b.call.remaining late read = true) := by
    rcases frame.idle none late with ⟨b', waits, frame'⟩ | ⟨e, failed, done⟩
    · rw [same]
      exact .inl ⟨c, b', waits, frame', inside⟩
    · exact .inr (.inr ⟨e, same, done, timesOut_of_turn met failed⟩)
  cases Wire.read_met met with
  | @bytes count chunk some room follows =>
    have longer := inside.append follows
    have begun : c ++ chunk ≠ [] := by simp [some]
    obtain ⟨payload, here, split⟩ := longer.frame begun
    have whole := longer.bytes
    rw [split] at whole
    have fits := valid.fits payload (List.mem_of_getElem? here)
    rcases frame.bytes fits some room whole late with ⟨b', waits, frame'⟩ | ⟨ended, done⟩
    · exact .inl ⟨_, b', waits, frame', longer⟩
    · rw [ended] at longer
      exact .inr (.inl ⟨payload, here, longer.next here, done⟩)
  | zero => exact idle (by simp) rfl
  | interrupted => exact idle (by simp) rfl
  | wouldBlock => exact idle (by simp) rfl
  | failed => exact idle (by simp) rfl

end FrameSteps

/-- Where the reading end of a connection stands: between frames, or inside one. The first frame
answers the subscription, the second is its snapshot, and `decoded` more are read. -/
inductive Standing (client : DaemonClient) (decoded : Nat) (s : HostStream) : Prop where
  | between (free : s.call = none)
      (aligned : s.worker.location.MayRead → s.wire.Inside (decoded + 2) [])
  | response {b : Blocked (Except HostError DaemonSubscription)} {c : List UInt8}
      (call : s.call = some (.subscribing b)) (here : s.worker.location = .subscribing)
      (first : decoded = 0)
      (frame : InFrame client.ioTimeout
        (takeReady client.responses client.messages client.ioTimeout) c b)
      (inside : s.wire.Inside 0 c)
  | snapshot {b : Blocked (Except HostError DaemonSubscription)} {c : List UInt8}
      {streamId : String} (call : s.call = some (.subscribing b))
      (here : s.worker.location = .subscribing) (first : decoded = 0)
      (frame : InFrame client.ioTimeout (takeSnapshot client.messages streamId) c b)
      (inside : s.wire.Inside 1 c)
  | message {b : Blocked (Except HostError StreamMessage)} {c : List UInt8}
      (call : s.call = some (.reading b)) (here : s.worker.location = .reading)
      (frame : InFrame READ_TIMEOUT (decodeMessage client.messages) c b)
      (inside : s.wire.Inside (decoded + 2) c)
      (started : s.started + c.length = s.wire.position)

/-- The messages are those of the frames behind the snapshot, in order. -/
def Decodes (client : DaemonClient) (frames : List (List UInt8)) (messages : List StreamMessage) :
    Prop :=
  ∀ (i : Nat) (message : StreamMessage), messages[i]? = some message →
    ∃ payload, frames[i + 2]? = some payload ∧
      decodeStreamMessageFrame client.messages (frameOf payload) = .ok message

/-- What holds of a stream that has returned these messages. -/
structure Sound (client : DaemonClient) (messages : List StreamMessage) (s : HostStream) : Prop where
  valid : s.wire.Valid
  standing : Standing client messages.length s
  decodes : Decodes client s.wire.frames messages

section Sound

variable {client : DaemonClient} {s s' : HostStream} {messages : List StreamMessage}
variable {a : StreamAction} {o : StreamOutput} {n : Nat}

theorem sound_new : Sound client [] HostStream.new := by
  refine ⟨Wire.new_valid, .between rfl ?_, ?_⟩
  · intro mayRead
    exact mayRead.elim
  · intro i message here
    simp at here

/-- What the other end does to the wire does not move the reader. -/
theorem Standing.wire {wire : Wire} (h : Standing client n s)
    (keep : ∀ k c, s.wire.Inside k c → wire.Inside k c) (still : wire.position = s.wire.position) :
    Standing client n { s with wire := wire } := by
  cases h with
  | between free aligned =>
    exact .between free fun mayRead => keep _ _ (aligned mayRead)
  | response call here first frame inside =>
    exact .response call here first frame (keep _ _ inside)
  | snapshot call here first frame inside =>
    exact .snapshot call here first frame (keep _ _ inside)
  | message call here frame inside started =>
    exact .message call here frame (keep _ _ inside) (started.trans still.symm)

theorem Decodes.write {frames : List (List UInt8)} (h : Decodes client frames messages)
    (payload : List UInt8) : Decodes client (frames ++ [payload]) messages := by
  intro i message here
  obtain ⟨payload', known, decoded⟩ := h i message here
  refine ⟨payload', ?_, decoded⟩
  rw [List.getElem?_append_left (List.getElem?_eq_some_iff.mp known).1]
  exact known

theorem Decodes.snoc {frames : List (List UInt8)} {payload : List UInt8} {message : StreamMessage}
    (h : Decodes client frames messages) (here : frames[messages.length + 2]? = some payload)
    (decoded : decodeStreamMessageFrame client.messages (frameOf payload) = .ok message) :
    Decodes client frames (messages ++ [message]) := by
  intro i message' known
  rcases Nat.lt_trichotomy i messages.length with before | rfl | after
  · rw [List.getElem?_append_left before] at known
    exact h i message' known
  · rw [List.getElem?_concat_length] at known
    obtain rfl := Option.some.inj known
    exact ⟨payload, here, decoded⟩
  · rw [List.getElem?_eq_none (by rw [List.length_append, List.length_singleton]; omega)] at known
    exact absurd known (by simp)

/-- A worker's own step keeps it where its reader stands. -/
theorem Standing.worker {w : StreamWorker} {action : WorkerAction} {out : WorkerOutput}
    (h : Standing client n s) (step : s.worker.step action = some (w, out))
    (reads : ∀ r, action ≠ .readReturns r) (subscribes : ∀ r, action ≠ .subscribeReturns (.ok r))
    (refused : ∀ e, action = .subscribeReturns (.error e) → s.call = none) :
    Standing client n { s with worker := w } := by
  cases h with
  | between free aligned =>
    exact .between free fun after => aligned (StreamWorker.step_mayRead step reads subscribes after)
  | response call here first frame inside =>
    have still := HostStream.worker_busy reads subscribes refused step call (.inr here)
    exact .response call (still.trans here) first frame inside
  | snapshot call here first frame inside =>
    have still := HostStream.worker_busy reads subscribes refused step call (.inr here)
    exact .snapshot call (still.trans here) first frame inside
  | message call here frame inside started =>
    have still := HostStream.worker_busy reads subscribes refused step call (.inl here)
    exact .message call (still.trans here) frame inside started

theorem takeSnapshot_start (json : SerdeJson StreamMessage) (streamId : String)
    (frame : List UInt8) : ∃ r, (takeSnapshot json streamId frame).start = .inr r := by
  unfold takeSnapshot
  split <;> exact ⟨_, rfl⟩

theorem takeReady_start (responses : SerdeJson ServerResponse)
    (messages : SerdeJson StreamMessage) (timeout : Nat) (frame : List UInt8) :
    (∃ streamId b, (takeReady responses messages timeout frame).start = .inl b ∧
        InFrame timeout (takeSnapshot messages streamId) [] b) ∨
      ∃ e, (takeReady responses messages timeout frame).start = .inr (.error e) := by
  unfold takeReady
  split
  · exact .inr ⟨_, rfl⟩
  · split
    · obtain ⟨b, start, frame⟩ := start_readFrame timeout (takeSnapshot messages _)
      exact .inl ⟨_, b, start, frame⟩
    · exact .inr ⟨_, rfl⟩

/-- A turn of a subscription: it goes on, or both its frames are consumed. -/
theorem Sound.subscribing {b : Blocked (Except HostError DaemonSubscription)} {read : WireRead}
    {result : ReadResult} {wire : Wire} (h : Sound client messages s)
    (call : s.call = some (.subscribing b))
    (met : s.wire.read b.call.need read = some (result, wire)) (late : Nat) :
    (∀ b', b.turn ⟨result,late⟩ = .inl b' → Standing client messages.length
        { s with call := some (.subscribing b'), wire := wire }) ∧
      ∀ subscription, b.turn ⟨result,late⟩ = .inr (.ok subscription) →
        wire.Inside (messages.length + 2) [] := by
  cases h.standing with
  | between free aligned => simp [call] at free
  | message reading => simp [call] at reading
  | response called here first frame inside =>
    obtain ⟨⟩ := Option.some.inj (call.symm.trans called)
    rcases frame.turn h.valid inside met late with
      ⟨c', b', waits, frame', inside'⟩ | ⟨payload, known, inside', done⟩ | ⟨e, rfl, failed, _⟩
    · refine ⟨?_, by simp [waits]⟩
      intro b'' turned
      obtain rfl := Sum.inl.inj (waits.symm.trans turned)
      exact .response rfl here first frame' inside'
    · rcases takeReady_start client.responses client.messages client.ioTimeout (frameOf payload) with
        ⟨streamId, b', start, frame'⟩ | ⟨e, refused⟩
      · rw [start] at done
        refine ⟨?_, by simp [done]⟩
        intro b'' turned
        obtain rfl := Sum.inl.inj (done.symm.trans turned)
        exact .snapshot rfl here first frame' inside'
      · rw [refused] at done
        exact ⟨by simp [done], by simp [done]⟩
    · exact ⟨by simp [failed], by simp [failed]⟩
  | snapshot called here first frame inside =>
    obtain ⟨⟩ := Option.some.inj (call.symm.trans called)
    rcases frame.turn h.valid inside met late with
      ⟨c', b', waits, frame', inside'⟩ | ⟨payload, known, inside', done⟩ | ⟨e, rfl, failed, _⟩
    · refine ⟨?_, by simp [waits]⟩
      intro b'' turned
      obtain rfl := Sum.inl.inj (waits.symm.trans turned)
      exact .snapshot rfl here first frame' inside'
    · obtain ⟨r, ended⟩ := takeSnapshot_start client.messages _ (frameOf payload)
      rw [ended] at done
      refine ⟨by simp [done], ?_⟩
      intro subscription _
      rw [first]
      exact inside'
    · exact ⟨by simp [failed], by simp [failed]⟩

/-- A turn of the read of a message: it goes on, its frame is consumed and decoded, or it times
out where it began. -/
theorem Sound.reading {b : Blocked (Except HostError StreamMessage)} {read : WireRead}
    {result : ReadResult} {wire : Wire} (h : Sound client messages s)
    (call : s.call = some (.reading b))
    (met : s.wire.read b.call.need read = some (result, wire)) (late : Nat) :
    (∀ b', b.turn ⟨result,late⟩ = .inl b' → Standing client messages.length
        { s with call := some (.reading b'), wire := wire }) ∧
      (∀ message, b.turn ⟨result,late⟩ = .inr (.ok message) →
        ∃ payload, wire.frames[messages.length + 2]? = some payload ∧
          decodeStreamMessageFrame client.messages (frameOf payload) = .ok message ∧
          wire.Inside (messages.length + 3) []) ∧
      ∀ e, b.turn ⟨result,late⟩ = .inr (.error e) → e.isTimedOut = true →
        wire = s.wire ∧ ∃ c, s.wire.Inside (messages.length + 2) c ∧
          s.started + c.length = s.wire.position ∧
          timesOut b.call.remaining late read = true := by
  cases h.standing with
  | between free aligned => simp [call] at free
  | response subscribing => simp [call] at subscribing
  | snapshot subscribing => simp [call] at subscribing
  | message called here frame inside started =>
    obtain ⟨⟩ := Option.some.inj (call.symm.trans called)
    rcases frame.turn h.valid inside met late with
      ⟨c', b', waits, frame', inside'⟩ | ⟨payload, known, inside', done⟩ | ⟨e, rfl, failed, timed⟩
    · refine ⟨?_, by simp [waits], by simp [waits]⟩
      intro b'' turned
      obtain rfl := Sum.inl.inj (waits.symm.trans turned)
      refine .message rfl here frame' inside' ?_
      have from_ := inside.position
      have to_ := inside'.position
      rw [Wire.read_frames met] at to_
      change s.started + c'.length = wire.position
      omega
    · change b.turn _ = .inr ((decodeStreamMessageFrame client.messages
        (frameOf payload)).mapError HostError.protocol) at done
      cases decoded : decodeStreamMessageFrame client.messages (frameOf payload) with
      | error e =>
        rw [decoded] at done
        refine ⟨by simp [done], by simp [done, Except.mapError], ?_⟩
        intro e' turned timed
        rw [done] at turned
        obtain rfl := Except.error.inj (Sum.inr.inj turned)
        simp [HostError.isTimedOut] at timed
      | ok message =>
        rw [decoded] at done
        refine ⟨by simp [done], ?_, by simp [done, Except.mapError]⟩
        intro message' turned
        rw [done] at turned
        obtain rfl := Except.ok.inj (Sum.inr.inj turned)
        exact ⟨payload, known, decoded, inside'⟩
    · refine ⟨by simp [failed], by simp [failed], ?_⟩
      intro e' turned late'
      rw [failed] at turned
      obtain rfl := Except.error.inj (Sum.inr.inj turned)
      refine ⟨rfl, _, inside, started, timed ?_⟩
      simpa [HostError.isTimedOut] using late'

theorem Sound.step (h : Sound client messages s) (uncut : s.cutShort a = false)
    (step : s.step client a = some (s', o)) :
    Sound client (decodedStep messages (a, o)) s' := by
  have valid := HostStream.step_valid h.valid step
  cases HostStream.step_moves step with
  | worker reads subscribes refused moved =>
    exact ⟨valid, h.standing.worker moved reads subscribes refused, h.decodes⟩
  | @connected b here free start =>
    obtain ⟨b', start', frame⟩ := start_readFrame client.ioTimeout
      (takeReady client.responses client.messages client.ioTimeout)
    obtain rfl := Sum.inl.inj (start'.symm.trans start)
    refine ⟨valid, .response rfl here rfl frame ?_, ?_⟩
    · exact ⟨Nat.le_refl _, List.nil_prefix, rfl⟩
    · intro i message known
      simp [decodedStep] at known
  | @began b here free start =>
    obtain ⟨b', start', frame⟩ := start_readFrame READ_TIMEOUT
      (decodeMessage client.messages)
    obtain rfl := Sum.inl.inj (start'.symm.trans start)
    refine ⟨valid, ?_, h.decodes⟩
    cases h.standing with
    | between _ aligned =>
      have mayRead : s.worker.location.MayRead := by
        rw [here]
        trivial
      exact .message rfl here frame (aligned mayRead) rfl
    | response call | snapshot call | message call => simp [free] at call
  | @subscribing b b' read late result wire call met waits =>
    have kept := h.decodes
    rw [← Wire.read_frames met] at kept
    exact ⟨valid, (h.subscribing call met late).1 b' waits, kept⟩
  | @subscribed b read late result wire r w out call met done moved =>
    have kept := h.decodes
    rw [← Wire.read_frames met] at kept
    refine ⟨valid, .between rfl ?_, kept⟩
    intro mayRead
    cases StreamWorker.step_moves moved with
    | subscribeReturned here =>
      cases r with
      | error e => exact mayRead.elim
      | ok subscription => exact (h.subscribing call met late).2 subscription done
  | @reading b b' read late result wire call met waits =>
    have kept := h.decodes
    rw [← Wire.read_frames met] at kept
    exact ⟨valid, (h.reading call met late).1 b' waits, kept⟩
  | @read b read late result wire r w out call met done moved =>
    have kept := h.decodes
    rw [← Wire.read_frames met] at kept
    obtain ⟨_, whole, timed⟩ := h.reading call met late
    cases r with
    | ok message =>
      obtain ⟨payload, known, decoded, inside⟩ := whole message done
      refine ⟨valid, .between rfl ?_, kept.snoc known decoded⟩
      intro _
      change wire.Inside ((messages ++ [message]).length + 2) []
      rw [List.length_append]
      exact inside
    | error e =>
      refine ⟨valid, .between rfl ?_, kept⟩
      intro mayRead
      cases StreamWorker.step_moves moved with
      | readReturned here =>
        obtain ⟨rfl, c, inside, started, late'⟩ := timed e done mayRead
        have nothing : c = [] := by
          simp only [HostStream.cutShort, call, late', and_true, decide_eq_false_iff_not] at uncut
          exact List.eq_nil_of_length_eq_zero (by omega)
        rw [nothing] at inside
        exact inside
  | wrote opened fits =>
    exact ⟨valid, h.standing.wire (fun _ _ inside => inside.write _) rfl,
      h.decodes.write _⟩
  | arrived count =>
    exact ⟨valid, h.standing.wire (fun _ _ inside => inside.arrive _) rfl, h.decodes⟩
  | closed count opened =>
    exact ⟨valid, h.standing.wire (fun _ _ inside => inside.close _) rfl, h.decodes⟩

/-- A read that times out inside a frame leaves the connection there, and the worker where it may
go on to read from it. -/
theorem Sound.cut (h : Sound client messages s) (cut : s.cutShort a = true)
    (step : s.step client a = some (s', o)) :
    s'.call = none ∧ s'.worker.location.MayRead ∧
      ∀ k, s'.wire.position ≠ Wire.boundary s'.wire.frames k := by
  have ended {b : Blocked (Except HostError StreamMessage)} {read : WireRead} {late : Nat}
      {result : ReadResult} {wire : Wire} (call : s.call = some (.reading b))
      (met : s.wire.read b.call.need read = some (result, wire))
      (cut : s.cutShort (.turn read late) = true) :
      wire = s.wire ∧ (∃ e, e.kind = .timedOut ∧ b.turn ⟨result,late⟩ = .inr (.error (.io e))) ∧
        ∀ k, s.wire.position ≠ Wire.boundary s.wire.frames k := by
    simp only [HostStream.cutShort, call, decide_eq_true_eq] at cut
    obtain ⟨begun, timed⟩ := cut
    obtain ⟨rfl, e, kind, turn⟩ := turn_of_timesOut met timed
    cases h.standing with
    | between free | response free | snapshot free => simp [call] at free
    | @message b' c called here frame inside started =>
      obtain ⟨⟩ := Option.some.inj (call.symm.trans called)
      have consumed : c ≠ [] := by
        rintro rfl
        simp only [List.length_nil] at started
        omega
      obtain ⟨payload, known, split⟩ := inside.frame consumed
      have whole := inside.bytes
      rw [split] at whole
      have part := frame.consumed_lt (h.valid.fits payload (List.mem_of_getElem? known)) whole
      refine ⟨rfl, ⟨e, kind, ?_⟩, inside.not_boundary known consumed part⟩
      unfold Blocked.turn
      rw [turn]
      cases frame <;> rfl
  cases HostStream.step_moves step with
  | @read b read late result wire r w out call met done moved =>
    obtain ⟨rfl, ⟨e, kind, failed⟩, away⟩ := ended call met cut
    obtain rfl := Sum.inr.inj (failed.symm.trans done)
    refine ⟨rfl, ?_, away⟩
    cases StreamWorker.step_moves moved with
    | readReturned => exact decide_eq_true kind
  | @reading b b' read late result wire call met waits =>
    obtain ⟨_, ⟨e, _, failed⟩, _⟩ := ended call met cut
    simp [failed] at waits
  | worker | connected | began | wrote | arrived | closed => simp [HostStream.cutShort] at cut
  | subscribing call | subscribed call => simp [HostStream.cutShort, call] at cut

theorem sound_of_run {tr : List (StreamAction × StreamOutput)}
    (run : (hostStream client).Run inTime HostStream.new tr s) : Sound client (decoded tr) s := by
  apply run.history (P := fun tr s => Sound client (decoded tr) s) sound_new
  intro tr t a u o sound uncut step
  rw [decoded, List.foldl_append]
  exact sound.step uncut step

end Sound

/-- While every read that times out has consumed nothing, each read of a message begins at the
start of a frame, and the messages are the frames behind the snapshot, one by one. A read that
times out inside a frame leaves the connection there, where no frame starts, and the worker where
it may read on. -/
theorem frames_stay_aligned (client : DaemonClient) {tr : List (StreamAction × StreamOutput)}
    {s : HostStream} (run : (hostStream client).Run inTime HostStream.new tr s) :
    (∀ s' o, s.step client .startRead = some (s', o) →
      s.wire.position = Wire.boundary s.wire.frames ((decoded tr).length + 2)) ∧
    Decodes client s.wire.frames (decoded tr) ∧
    (∀ a s' o e, s.step client a = some (s', o) → s.cutShort a = false →
      o.returned = some (.readReturns (.error e)) → e.isTimedOut = true →
      s'.wire.position = s.started) ∧
    ∀ a s' o, s.step client a = some (s', o) → s.cutShort a = true →
      s'.call = none ∧ s'.worker.location.MayRead ∧
        ∀ k, s'.wire.position ≠ Wire.boundary s'.wire.frames k := by
  have sound := sound_of_run run
  refine ⟨?_, sound.decodes, ?_, ?_⟩
  · intro s' o step
    cases HostStream.step_moves step with
    | began here free start =>
      cases sound.standing with
      | between _ aligned =>
        have mayRead : s.worker.location.MayRead := by
          rw [here]
          trivial
        exact (aligned mayRead).position
      | response call | snapshot call | message call => simp [free] at call
  · intro a s' o e step uncut returned timed
    cases HostStream.step_moves step with
    | @read b read late result wire r w out call met done moved =>
      obtain rfl : r = .error e := by simpa using returned
      obtain ⟨rfl, c, _, started, late'⟩ := (sound.reading call met late).2.2 e done timed
      simp only [HostStream.cutShort, call, late', and_true, decide_eq_false_iff_not] at uncut
      change s.wire.position = s.started
      omega
    | worker | connected | began | subscribing | subscribed | reading | wrote | arrived | closed =>
      simp at returned
  · intro a s' o step cut
    exact sound.cut cut step

/-- The answer to a subscription, the snapshot of a fresh daemon and its first event. -/
def firstReady : ServerResponse := .success "r" (.subscriptionReady "s")

def firstSnapshot : StreamMessage := .snapshot ⟨"s",0,none,[]⟩

def firstEvent : StreamMessage :=
  .event ⟨PROTOCOL_VERSION,"s",1,.operationStarted "a" .openProject⟩

def firstReadyText : String :=
  "\x7b\"protocolVersion\":1,\"requestId\":\"r\",\"result\":\x7b\"type\":\"subscriptionReady\"," ++
    "\"streamId\":\"s\"\x7d,\"error\":null\x7d"

def firstSnapshotText : String :=
  "\x7b\"messageType\":\"snapshot\",\"snapshot\":\x7b\"streamId\":\"s\",\"lastSequence\":0," ++
    "\"project\":null,\"activeOperations\":[]\x7d\x7d"

def firstEventText : String :=
  "\x7b\"messageType\":\"event\",\"event\":\x7b\"protocolVersion\":1,\"streamId\":\"s\"," ++
    "\"sequence\":1,\"payload\":\x7b\"type\":\"operationStarted\",\"requestId\":\"a\"," ++
    "\"kind\":\"openProject\"\x7d\x7d\x7d"

/-- The client of the runs below. -/
def firstClient : DaemonClient where
  responses := .ofTexts [(firstReady, firstReadyText)]
  messages := .ofTexts [(firstSnapshot, firstSnapshotText), (firstEvent, firstEventText)]
  ioTimeout := 2000

/-- A worker subscribes, and begins to read messages. -/
def subscribing : List StreamAction :=
  [.worker .check, .worker (.client true), .worker .check, .connect,
    .write (utf8 firstReadyText), .write (utf8 firstSnapshotText), .arrive 219,
    .turn (.bytes 4) 0, .turn (.bytes 200) 0, .turn (.bytes 4) 0, .turn (.bytes 200) 0,
    .worker .check, .worker (.send true), .worker .check, .worker .check]

/-- A read times out, and the daemon answers the health check. -/
def timingOut : List StreamAction :=
  [.turn .wouldBlock 150, .worker .check, .worker (.client true), .worker (.healthReturns true),
    .worker .check, .worker .check]

/-- An event is read whole, and the stream is idle behind it. -/
def readingFirst : List StreamAction :=
  subscribing ++ [.startRead, .write (utf8 firstEventText), .arrive 2, .turn (.bytes 4) 0,
    .arrive 158, .turn (.bytes 2) 20, .turn (.bytes 200) 0, .worker .check, .worker (.send true),
    .worker .check, .worker .check, .startRead] ++ timingOut

theorem frames_stay_aligned_idle :
    ∃ tr s s' o, (hostStream firstClient).Run inTime .new tr s ∧
      s.step firstClient .startRead = some (s', o) ∧ decoded tr = [firstEvent] ∧
      s.wire.position = Wire.boundary s.wire.frames 3 := by
  have run := Machine.run_of_exec_isSome (hostStream firstClient) inTime .new readingFirst
    (by decide +kernel)
  have first : decoded (((hostStream firstClient).exec inTime .new readingFirst).get
      (by decide +kernel)).1 = [firstEvent] := by decide +kernel
  have enabled : ((((hostStream firstClient).exec inTime .new readingFirst).get
      (by decide +kernel)).2.step firstClient .startRead).isSome := by decide +kernel
  obtain ⟨⟨s', o⟩, begins⟩ := Option.isSome_iff_exists.mp enabled
  have aligned := (frames_stay_aligned firstClient run).1 s' o begins
  rw [first] at aligned
  exact ⟨_, _, s', o, run, begins, first, aligned⟩

/-- Two bytes of an event arrive, the rest later than the deadline. -/
def cuttingFirst : List StreamAction :=
  subscribing ++ [.startRead, .write (utf8 firstEventText), .arrive 2, .turn (.bytes 4) 0] ++
    timingOut

/-- The next read of a message begins inside the length of the event. -/
theorem late_frame_misaligns :
    ∃ tr s s' o, (hostStream firstClient).Run Machine.anyStep .new tr s ∧
      s.step firstClient .startRead = some (s', o) ∧ decoded tr = [] ∧
      ∀ k, s.wire.position ≠ Wire.boundary s.wire.frames k := by
  have run := Machine.run_of_exec_isSome (hostStream firstClient) Machine.anyStep .new cuttingFirst
    (by decide +kernel)
  have enabled : ((((hostStream firstClient).exec Machine.anyStep .new cuttingFirst).get
      (by decide +kernel)).2.step firstClient .startRead).isSome := by decide +kernel
  obtain ⟨⟨s', o⟩, begins⟩ := Option.isSome_iff_exists.mp enabled
  refine ⟨_, _, s', o, run, begins, by decide +kernel, ?_⟩
  exact Wire.ne_boundary (k := 2) (by decide +kernel) (by decide +kernel)

end Kesharon.Host

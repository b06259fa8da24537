import Kesharon.Daemon.SessionMachine
import Kesharon.Ipc.Wire
import Mathlib.Tactic.SplitIfs

namespace Kesharon.Server

open Framework Application Kesharon.Daemon Ipc Protocol

/-- Where the thread of a connection stands. Behind the frame it is writing, `rest` follows; when
it returns it drops its receiver, then the stream, of which it has written so many bytes. -/
inductive Serving where
  | absent
  | accepted
  | writing (frame : Frame) (rest : List Frame) (channel : Option ChannelId)
  | receiving (channel : ChannelId)
  | returning (channel : Option ChannelId) (written : Nat)
  | closing (written : Nat)
  | closed
  deriving DecidableEq, Repr

inductive ServeAction where
  | subscribe (requestId : String)
  | rejectBusy (requestId : String)
  | giveUp
  | wrote
  | writeFails (unsent : Nat)
  | recv
  | dropReceiver
  | dropStream
  deriving DecidableEq, Repr

def Serving.channel : Serving → Option ChannelId
  | .writing _ _ channel | .returning channel _ => channel
  | .receiving channel => some channel
  | _ => none

/-- A connection that asks for a subscription, with the session it is served from. -/
structure Connection (σ : Type) where
  session : World σ
  serving : Serving
  wire : Wire

namespace Connection

variable {σ : Type}

/-- All bytes of the frames that were begun. -/
def total (c : Connection σ) : Nat := (Wire.bytesOf c.wire.frames).length

/-- Return, with all bytes written. -/
def ret (c : Connection σ) (channel : Option ChannelId) : Connection σ :=
  { c with serving := .returning channel c.total }

/-- Go on to the next frame; behind the last one a subscription waits for messages. -/
def write (c : Connection σ) (frames : List Frame) (channel : Option ChannelId) : Connection σ :=
  match frames, channel with
  | frame :: rest, _ =>
    { c with serving := .writing frame rest channel, wire := c.wire.write frame.payload }
  | [], some channel => { c with serving := .receiving channel }
  | [], none => c.ret none

/-- `serve_subscription`, up to where it begins to write. -/
def subscribe (responses : SerdeJson ServerResponse) (messages : SerdeJson StreamMessage)
    (streamId requestId : String) (c : Connection σ) : Connection σ × Output :=
  let (session, output) := c.session.subscribe streamId
  let c := { c with session := session }
  match output.subscribed with
  | some (.ok (snapshot, channel)) =>
    match Frame.encode responses (.success requestId (.subscriptionReady streamId)),
      Frame.encode messages (.snapshot snapshot) with
    | .ok ready, .ok snapshot => (c.write [ready,snapshot] (some channel), output)
    | _, _ => (c.ret (some channel), output)
  | _ => (c.ret none, output)

/-- `reject_busy_connection`, behind the read of the request. -/
def rejectBusy (responses : SerdeJson ServerResponse) (requestId : String) (c : Connection σ) :
    Connection σ :=
  match Frame.encode responses (.failure requestId .serverBusy
    "The daemon has reached its concurrent connection limit") with
  | .ok frame => c.write [frame] none
  | .error _ => c.ret none

/-- What a receive returns: a message to write, or the end of the subscription. -/
def deliver (messages : SerdeJson StreamMessage) (channel : ChannelId) (c : Connection σ) :
    Received StreamMessage → Connection σ
  | .message message =>
    match Frame.encode messages message with
    | .ok frame => c.write [frame] (some channel)
    | .error _ => c.ret (some channel)
  | .disconnected => c.ret (some channel)

def step [StateRepository σ] (responses : SerdeJson ServerResponse)
    (messages : SerdeJson StreamMessage) (streamId : String) (c : Connection σ) :
    ServeAction → Option (Connection σ × Output)
  | .subscribe requestId =>
    match c.serving with
    | .accepted => some (c.subscribe responses messages streamId requestId)
    | _ => none
  | .rejectBusy requestId =>
    match c.serving with
    | .accepted => some (c.rejectBusy responses requestId, {})
    | _ => none
  | .giveUp =>
    match c.serving with
    | .accepted => some (c.ret none, {})
    | _ => none
  | .wrote =>
    match c.serving with
    | .writing _ rest channel => some (c.write rest channel, {})
    | _ => none
  | .writeFails unsent =>
    match c.serving with
    | .writing frame _ channel =>
      let left := min unsent (frameOf frame.payload).length
      some ({ c with serving := .returning channel (c.total - left) }, {})
    | _ => none
  | .recv =>
    match c.serving with
    | .receiving channel =>
      match c.session.step streamId (.recv channel) with
      | some (session, output) =>
        output.received.map fun received =>
          (({ c with session := session }).deliver messages channel received.2, output)
      | none => none
    | _ => none
  | .dropReceiver =>
    match c.serving with
    | .returning (some channel) written =>
      (c.session.step streamId (.hangUp channel)).map fun r =>
        ({ c with session := r.1, serving := .closing written }, r.2)
    | .returning none written => some ({ c with serving := .closing written }, {})
    | _ => none
  | .dropStream =>
    match c.serving with
    | .closing written =>
      some ({ c with serving := .closed, wire := c.wire.close written }, {})
    | _ => none

/-- The thread still has the stream. -/
def Open (c : Connection σ) : Prop := c.serving ≠ .absent ∧ c.serving ≠ .closed

/-- What a step does to the wire. -/
inductive Wired (c c' : Connection σ) : Prop where
  | still (wire : c'.wire = c.wire) (opened : c'.Open)
  | wrote {payload : List UInt8} (fits : payload.length ≤ MAX_FRAME_BYTES)
      (wire : c'.wire = c.wire.write payload) (opened : c'.Open)
  | closed {count : Nat} (wire : c'.wire = c.wire.close count) (ended : c'.serving = .closed)

section Steps

variable {b c c' : Connection σ}

theorem write_wired (frames : List Frame) (channel : Option ChannelId) (same : b.wire = c.wire) :
    Wired c (b.write frames channel) := by
  unfold write
  cases frames with
  | cons frame rest =>
    refine .wrote frame.fits ?_ ⟨nofun, nofun⟩
    rw [← same]
  | nil => cases channel <;> exact .still same ⟨nofun, nofun⟩

theorem ret_wired (channel : Option ChannelId) (same : b.wire = c.wire) :
    Wired c (b.ret channel) :=
  .still same ⟨nofun, nofun⟩

/-- A thread steps only while it has the stream. -/
theorem step_wired [StateRepository σ] {responses : SerdeJson ServerResponse}
    {messages : SerdeJson StreamMessage} {streamId : String} {a : ServeAction} {o : Output}
    (h : c.step responses messages streamId a = some (c', o)) : c.Open ∧ Wired c c' := by
  unfold step at h
  cases here : c.serving with
  | absent => cases a <;> simp [here] at h
  | closed => cases a <;> simp [here] at h
  | accepted =>
    refine ⟨by simp [Open, here], ?_⟩
    cases a with
    | subscribe requestId =>
      simp only [here, Option.some.injEq, subscribe] at h
      split at h
      · split at h
        · obtain ⟨rfl, rfl⟩ := Prod.mk.inj h
          exact write_wired _ _ rfl
        · obtain ⟨rfl, rfl⟩ := Prod.mk.inj h
          exact ret_wired _ rfl
      · obtain ⟨rfl, rfl⟩ := Prod.mk.inj h
        exact ret_wired _ rfl
    | rejectBusy requestId =>
      simp only [here, Option.some.injEq, Prod.mk.injEq, rejectBusy] at h
      obtain ⟨rfl, rfl⟩ := h
      split
      · exact write_wired _ _ rfl
      · exact ret_wired _ rfl
    | giveUp =>
      simp only [here, Option.some.injEq, Prod.mk.injEq] at h
      obtain ⟨rfl, rfl⟩ := h
      exact ret_wired _ rfl
    | _ => simp [here] at h
  | writing frame rest channel =>
    refine ⟨by simp [Open, here], ?_⟩
    cases a with
    | wrote =>
      simp only [here, Option.some.injEq, Prod.mk.injEq] at h
      obtain ⟨rfl, rfl⟩ := h
      exact write_wired _ _ rfl
    | writeFails unsent =>
      simp only [here, Option.some.injEq, Prod.mk.injEq] at h
      obtain ⟨rfl, rfl⟩ := h
      exact .still rfl ⟨nofun, nofun⟩
    | _ => simp [here] at h
  | receiving channel =>
    refine ⟨by simp [Open, here], ?_⟩
    cases a with
    | recv =>
      simp only [here] at h
      split at h
      · simp only [Option.map_eq_some_iff, Prod.mk.injEq] at h
        obtain ⟨received, _, rfl, rfl⟩ := h
        unfold deliver
        split
        · split
          · exact write_wired _ _ rfl
          · exact ret_wired _ rfl
        · exact ret_wired _ rfl
      · simp at h
    | _ => simp [here] at h
  | returning channel written =>
    refine ⟨by simp [Open, here], ?_⟩
    cases a with
    | dropReceiver =>
      cases channel with
      | none =>
        simp only [here, Option.some.injEq, Prod.mk.injEq] at h
        obtain ⟨rfl, rfl⟩ := h
        exact .still rfl ⟨nofun, nofun⟩
      | some channel =>
        simp only [here, Option.map_eq_some_iff, Prod.mk.injEq] at h
        obtain ⟨_, _, rfl, rfl⟩ := h
        exact .still rfl ⟨nofun, nofun⟩
    | _ => simp [here] at h
  | closing written =>
    refine ⟨by simp [Open, here], ?_⟩
    cases a with
    | dropStream =>
      simp only [here, Option.some.injEq, Prod.mk.injEq] at h
      obtain ⟨rfl, rfl⟩ := h
      exact .closed rfl rfl
    | _ => simp [here] at h

end Steps

end Connection

end Kesharon.Server

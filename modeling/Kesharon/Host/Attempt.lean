import Kesharon.Host.Transport
import Kesharon.Ipc.Reads

namespace Kesharon.Host

open Framework Ipc Protocol

/-- From the check before a read to what the worker makes of it, where the read brings no message. -/
def Location.inAttempt : Location → Bool
  | .readCheck | .reading | .received (.error _) | .recheckingClient | .checkingHealth | .lost => true
  | _ => false

/-- An answer that is not healthy: there is no client, or its health request fails. -/
def StreamAction.unhealthy : StreamAction → Bool
  | .worker (.client false) | .worker (.healthReturns false) => true
  | _ => false

/-- The worker goes on; an interrupted read is only tried again. -/
def StreamAction.advances : StreamAction → Bool
  | .worker .cancel | .turn .interrupted _ => false
  | .worker _ | .connect | .startRead | .turn _ _ => true
  | .write _ | .arrive _ | .close _ => false

/-- `Reconnecting` is sent. -/
def StreamOutput.reconnects (o : StreamOutput) : Bool :=
  match o.worker.sent with
  | some (.reconnecting, _) => true
  | _ => false

/-- A call of `read_next_message`: it fails as its read does, before its deadline. -/
structure ReadsMessage (client : DaemonClient) (b : Blocked (Except HostError StreamMessage)) :
    Prop where
  next : b.next = readPayload READ_TIMEOUT (decodeMessage client.messages) ∨
    ∃ length, b.next = takePayload (decodeMessage client.messages) length
  remaining_le : b.call.remaining ≤ READ_TIMEOUT

/-- A call is made where the worker waits for it. -/
inductive Calls (client : DaemonClient) (s : HostStream) : Prop where
  | free (free : s.call = none)
  | subscribing {b : Blocked (Except HostError DaemonSubscription)}
      (call : s.call = some (.subscribing b)) (here : s.worker.location = .subscribing)
  | reading {b : Blocked (Except HostError StreamMessage)} (call : s.call = some (.reading b))
      (here : s.worker.location = .reading) (reads : ReadsMessage client b)

section Calls

variable {client : DaemonClient} {s s' : HostStream} {a : StreamAction} {o : StreamOutput}
variable {b b' : Blocked (Except HostError StreamMessage)} {t : Turn}

theorem ReadsMessage.failed (h : ReadsMessage client b) (e : IoError) :
    (b.next (.error e)).start = .inr (.error (.io e)) := by
  rcases h.next with next | ⟨length, next⟩
  · rw [next]
    rfl
  · rw [next]
    rfl

theorem readNextMessage_start (client : DaemonClient) :
    ∃ b, (readNextMessage client.messages READ_TIMEOUT).start = .inl b ∧ ReadsMessage client b ∧
      b.call.remaining = READ_TIMEOUT :=
  ⟨_, rfl, ⟨.inl rfl, Nat.le_refl _⟩, rfl⟩

theorem ReadsMessage.turn (h : ReadsMessage client b) (waits : b.turn t = .inl b') :
    ReadsMessage client b' := by
  unfold Blocked.turn at waits
  cases met : b.call.turn t with
  | inl call =>
    simp only [met, Sum.inl.injEq] at waits
    obtain rfl := waits
    exact ⟨h.next, Nat.le_trans (ReadExact.turn_remaining_le met) h.remaining_le⟩
  | inr result =>
    simp only [met] at waits
    cases result with
    | error e => simp [h.failed e] at waits
    | ok bytes =>
      rcases h.next with next | ⟨length, next⟩
      · simp only [next, readPayload] at waits
        split_ifs at waits
        · cases waits
        · rw [Reads.start_readExact] at waits
          split_ifs at waits
          · cases waits
          · obtain rfl := Sum.inl.inj waits
            exact ⟨.inr ⟨_, rfl⟩, Nat.le_refl _⟩
      · rw [next] at waits
        cases waits

theorem Calls.step (h : Calls client s) (step : s.step client a = some (s', o)) :
    Calls client s' := by
  cases HostStream.step_moves step with
  | worker reads subscribes refused moved =>
    cases h with
    | free free => exact .free free
    | subscribing call here =>
      have still := HostStream.worker_busy reads subscribes refused moved call (.inr here)
      exact .subscribing call (still.trans here)
    | reading call here waits =>
      have still := HostStream.worker_busy reads subscribes refused moved call (.inl here)
      exact .reading call (still.trans here) waits
  | connected here free start => exact .subscribing rfl here
  | began here free start =>
    obtain ⟨b', start', reads, _⟩ := readNextMessage_start client
    obtain rfl := Sum.inl.inj (start'.symm.trans start)
    exact .reading rfl here reads
  | subscribing call met waits =>
    cases h with
    | free free => simp [call] at free
    | reading called => simp [call] at called
    | subscribing _ here => exact .subscribing rfl here
  | reading call met waits =>
    cases h with
    | free free => simp [call] at free
    | subscribing called => simp [call] at called
    | reading called here reads =>
      obtain ⟨⟩ := Option.some.inj (call.symm.trans called)
      exact .reading rfl here (reads.turn waits)
  | subscribed | read => exact .free rfl
  | wrote | arrived | closed =>
    cases h with
    | free free => exact .free free
    | subscribing call here => exact .subscribing call here
    | reading call here reads => exact .reading call here reads

end Calls

/-- What an attempt has come to: whether an answer was not healthy, and whether `Reconnecting`
was sent. -/
inductive Attempt (w : StreamWorker) : Bool → Bool → Prop where
  | checking (here : w.location = .readCheck) : Attempt w false false
  | reading (here : w.location = .reading) : Attempt w false false
  | received {e : HostError} (here : w.location = .received (.error e))
      (why : e = .io deadlineExceeded ∨ w.cancelled = true) : Attempt w false false
  | recheckingClient (here : w.location = .recheckingClient) : Attempt w false false
  | checkingHealth (here : w.location = .checkingHealth) : Attempt w false false
  | lost (here : w.location = .lost) : Attempt w true false
  | stayed (here : w.location = .loopCheck) : Attempt w false false
  | left {noticed : Bool} (here : w.location = .connectCheck)
      (why : noticed = true ∨ w.cancelled = true) : Attempt w noticed noticed

section Attempt

variable {w w' : StreamWorker} {unhealthy noticed : Bool}

theorem Attempt.cancel (h : Attempt w unhealthy noticed) :
    Attempt { w with cancelled := true } unhealthy noticed := by
  cases h with
  | checking here => exact .checking here
  | reading here => exact .reading here
  | received here => exact .received here (.inr rfl)
  | recheckingClient here => exact .recheckingClient here
  | checkingHealth here => exact .checkingHealth here
  | lost here => exact .lost here
  | stayed here => exact .stayed here
  | left here => exact .left here (.inr rfl)

/-- The worker looks at its flag: before the read, or before it handles what the read returned. -/
theorem Attempt.check (h : Attempt w unhealthy noticed) (inside : w.location.inAttempt = true)
    (next : w.check = some w') : Attempt w' unhealthy noticed := by
  unfold StreamWorker.check at next
  cases h with
  | checking here =>
    simp only [here, Option.some.injEq] at next
    obtain rfl := next
    cases flag : w.cancelled with
    | true => exact .received rfl (.inr flag)
    | false => exact .reading rfl
  | @received e here why =>
    simp only [here] at next
    split_ifs at next with flag
    · obtain rfl := Option.some.inj next
      exact .left rfl (.inr flag)
    · obtain rfl := Option.some.inj next
      obtain rfl := why.resolve_right flag
      exact .recheckingClient rfl
  | reading here | recheckingClient here | checkingHealth here | lost here => simp [here] at next
  | stayed here | left here => simp [here, Location.inAttempt] at inside

/-- An answer that is not healthy leads out of the loop, by way of `Reconnecting`. -/
theorem Attempt.worker {a : WorkerAction} {o : WorkerOutput} (h : Attempt w unhealthy noticed)
    (inside : w.location.inAttempt = true) (own : ∀ r, a ≠ .readReturns r)
    (step : w.step a = some (w', o)) :
    Attempt w' (unhealthy || (StreamAction.worker a).unhealthy)
      (noticed || StreamOutput.reconnects ⟨o,none⟩) := by
  have quiet : StreamOutput.reconnects ⟨{},none⟩ = false := rfl
  cases StreamWorker.step_moves step with
  | cancelled =>
    rw [quiet, Bool.or_false]
    exact (Bool.or_false unhealthy).symm ▸ h.cancel
  | checked next =>
    rw [quiet, Bool.or_false]
    exact (Bool.or_false unhealthy).symm ▸ h.check inside next
  | clientRechecked here present =>
    cases h with
    | recheckingClient =>
      cases present
      · exact .lost rfl
      · exact .checkingHealth rfl
    | checking here' | reading here' | received here' | checkingHealth here' | lost here'
    | stayed here' | left here' => simp [here] at here'
  | healthReturned here ok =>
    cases h with
    | checkingHealth =>
      cases ok
      · exact .lost rfl
      · exact .stayed rfl
    | checking here' | reading here' | received here' | recheckingClient here' | lost here'
    | stayed here' | left here' => simp [here] at here'
  | sent delivered next =>
    unfold StreamWorker.send at next
    cases h with
    | lost here =>
      simp only [here, Option.some.injEq, Prod.mk.injEq] at next
      obtain ⟨rfl, rfl⟩ := next
      exact .left rfl (.inl rfl)
    | checking here | reading here | received here | recheckingClient here | checkingHealth here
    | stayed here | left here => simp [here] at next
  | readReturned here result => exact absurd rfl (own result)
  | clientFound here | clientMissing here | subscribeReturned here | woke here =>
    simp [here, Location.inAttempt] at inside

end Attempt

/-- How many steps an attempt may still take, but for interrupted reads, where its read may take
so many. -/
def Location.left (turns : Nat) : Location → Nat
  | .readCheck => READ_TIMEOUT + 7
  | .reading => turns + 5
  | .received _ => 4
  | .recheckingClient => 3
  | .checkingHealth => 2
  | .lost => 1
  | _ => 0

/-- A read waits at least a millisecond each time; one that has not begun takes a step to begin. -/
def HostStream.turnsLeft (s : HostStream) : Nat :=
  match s.call with
  | some (.reading b) => b.call.remaining
  | _ => READ_TIMEOUT + 1

def HostStream.left (s : HostStream) : Nat := s.worker.location.left s.turnsLeft

section Left

variable {client : DaemonClient} {s s' : HostStream} {a : StreamAction} {o : StreamOutput}

theorem Calls.turnsLeft_le (h : Calls client s) : s.turnsLeft ≤ READ_TIMEOUT + 1 := by
  unfold HostStream.turnsLeft
  cases h with
  | free free => simp [free]
  | subscribing call => simp [call]
  | reading call here reads =>
    have remaining := reads.remaining_le
    simp only [call]
    omega

theorem StreamWorker.step_left {w w' : StreamWorker} {action : WorkerAction} {out : WorkerOutput}
    {turns : Nat} (inside : w.location.inAttempt = true) (own : ∀ r, action ≠ .readReturns r)
    (step : w.step action = some (w', out)) (few : turns ≤ READ_TIMEOUT + 1) :
    w'.location.left turns + (StreamAction.worker action).advances.toNat ≤
      w.location.left turns := by
  cases step_moves step with
  | cancelled => exact Nat.le_refl _
  | checked next =>
    unfold check at next
    cases here : w.location with
    | readCheck =>
      simp only [here, Option.some.injEq] at next
      obtain rfl := next
      cases w.cancelled
      · simp [goTo, Location.left, StreamAction.advances]
        omega
      · simp [goTo, Location.left, StreamAction.advances]
    | received result =>
      cases result with
      | ok message => simp [here, Location.inAttempt] at inside
      | error e =>
        simp only [here] at next
        split_ifs at next
        · obtain rfl := Option.some.inj next
          simp [goTo, Location.left, StreamAction.advances]
        · obtain rfl := Option.some.inj next
          unfold handle
          dsimp only
          split_ifs <;> simp [goTo, Location.left, StreamAction.advances]
    | _ => simp [here, Location.inAttempt] at inside next
  | clientRechecked here present =>
    cases present <;> simp [here, goTo, Location.left, StreamAction.advances]
  | healthReturned here ok =>
    cases ok <;> simp [here, goTo, Location.left, StreamAction.advances]
  | sent delivered next =>
    unfold send at next
    cases here : w.location with
    | lost =>
      simp only [here, Option.some.injEq, Prod.mk.injEq] at next
      obtain ⟨rfl, rfl⟩ := next
      simp [goTo, Location.left, StreamAction.advances]
    | _ => simp [here, Location.inAttempt] at inside next
  | readReturned here result => exact absurd rfl (own result)
  | clientFound here | clientMissing here | subscribeReturned here | woke here =>
    simp [here, Location.inAttempt] at inside

/-- A step inside an attempt on a dead connection. -/
theorem HostStream.attempt_step {unhealthy noticed : Bool} (valid : s.wire.Valid)
    (drained : s.wire.Drained) (calls : Calls client s) (inside : s.worker.location.inAttempt = true)
    (h : Attempt s.worker unhealthy noticed) (step : s.step client a = some (s', o)) :
    Attempt s'.worker (unhealthy || a.unhealthy) (noticed || o.reconnects) ∧
      s'.wire = s.wire ∧ s'.left + a.advances.toNat ≤ s.left := by
  have elsewhere (here : s.worker.location = .subscribing) : False := by
    simp [here, Location.inAttempt] at inside
  have same : Attempt s.worker (unhealthy || false) (noticed || false) := by
    rw [Bool.or_false, Bool.or_false]
    exact h
  cases HostStream.step_moves step with
  | worker reads _ _ moved =>
    exact ⟨h.worker inside reads moved, rfl,
      StreamWorker.step_left inside reads moved calls.turnsLeft_le⟩
  | connected here => exact (elsewhere here).elim
  | began here free start =>
    obtain ⟨b', start', _, remaining⟩ := readNextMessage_start client
    obtain rfl := Sum.inl.inj (start'.symm.trans start)
    refine ⟨same, rfl, ?_⟩
    simp [left, turnsLeft, here, free, Location.left, StreamAction.advances, remaining]
  | subscribing call | subscribed call =>
    cases calls with
    | free free => simp [call] at free
    | subscribing _ here => exact (elsewhere here).elim
    | reading called => simp [call] at called
  | @reading b b' read late result wire call met waits =>
    cases calls with
    | free free => simp [call] at free
    | subscribing called => simp [call] at called
    | reading called here reads =>
      obtain ⟨⟩ := Option.some.inj (call.symm.trans called)
      obtain ⟨rfl, ⟨rfl, rfl⟩ | ⟨rfl, rfl⟩⟩ := valid.drained_read drained met
      · refine ⟨same, rfl, ?_⟩
        rw [Blocked.turn_zero] at waits
        split_ifs at waits with passed
        · simp [reads.failed] at waits
        · obtain rfl := Sum.inl.inj waits
          simp [left, turnsLeft, here, call, Location.left, StreamAction.advances]
          omega
      · refine ⟨same, rfl, ?_⟩
        obtain rfl := Sum.inl.inj waits
        simp [left, turnsLeft, here, call, Location.left, StreamAction.advances]
  | @read b read late result wire r w out call met done moved =>
    cases calls with
    | free free => simp [call] at free
    | subscribing called => simp [call] at called
    | reading called here reads =>
      obtain ⟨⟩ := Option.some.inj (call.symm.trans called)
      obtain ⟨rfl, ⟨rfl, rfl⟩ | ⟨rfl, rfl⟩⟩ := valid.drained_read drained met
      · rw [Blocked.turn_zero] at done
        split_ifs at done with passed
        rw [reads.failed] at done
        obtain rfl := Sum.inr.inj done
        cases StreamWorker.step_moves moved with
        | readReturned =>
          refine ⟨?_, rfl, ?_⟩
          · cases h with
            | reading => exact .received rfl (.inl rfl)
            | checking here' | received here' | recheckingClient here' | checkingHealth here'
            | lost here' | stayed here' | left here' => simp [here] at here'
          · simp [left, turnsLeft, here, call, Location.left, StreamAction.advances,
              StreamWorker.goTo]
      · simp at done
  | wrote opened => simp [Wire.Drained, opened] at drained
  | arrived count => exact ⟨same, valid.drained_arrive drained count, Nat.le_refl _⟩
  | closed count opened => simp [Wire.Drained, opened] at drained

/-- Outside its read, a worker in an attempt has a step of its own. -/
theorem StreamWorker.goes_on {w : StreamWorker} (inside : w.location.inAttempt = true)
    (here : w.location ≠ .reading) :
    ∃ action ∈ [WorkerAction.check, .client true, .healthReturns true, .send true],
      (w.step action).isSome = true := by
  cases at_ : w.location with
  | reading => exact absurd at_ here
  | readCheck => exact ⟨.check, by simp, by simp [step, check, at_]⟩
  | received result =>
    refine ⟨.check, by simp, ?_⟩
    simp only [step, check, at_]
    split_ifs <;> rfl
  | recheckingClient => exact ⟨.client true, by simp, by simp [step, at_]⟩
  | checkingHealth => exact ⟨.healthReturns true, by simp, by simp [step, at_]⟩
  | lost => exact ⟨.send true, by simp, by simp [step, send, at_]⟩
  | _ => simp [at_, Location.inAttempt] at inside

/-- Inside an attempt on a dead connection the worker can go on. -/
theorem HostStream.goes_on (drained : s.wire.Drained) (calls : Calls client s)
    (inside : s.worker.location.inAttempt = true) :
    ∃ a, a.advances = true ∧ (s.step client a).isSome = true ∧
      (a = .startRead ∨ a = .turn .zero 0 ∨ ∃ action, a = .worker action) := by
  by_cases here : s.worker.location = .reading
  · cases calls with
    | free free =>
      obtain ⟨b, start, _⟩ := readNextMessage_start client
      exact ⟨.startRead, rfl, by simp [step, here, free, start], .inl rfl⟩
    | subscribing _ here' => simp [here] at here'
    | @reading b call _ reads =>
      refine ⟨.turn .zero 0, rfl, ?_, .inr (.inl rfl)⟩
      simp only [step, turn, call, Wire.read, if_pos drained]
      cases met : b.turn ⟨.ok [],0⟩ with
      | inl b' => rfl
      | inr r => simp [returns, StreamWorker.step, here]
  · obtain ⟨action, own, enabled⟩ := StreamWorker.goes_on inside here
    refine ⟨.worker action, ?_, ?_, .inr (.inr ⟨action, rfl⟩)⟩
    · simp only [List.mem_cons, List.not_mem_nil, or_false] at own
      rcases own with rfl | rfl | rfl | rfl <;> rfl
    · simp only [List.mem_cons, List.not_mem_nil, or_false] at own
      rcases own with rfl | rfl | rfl | rfl <;> simpa [step, workerStep] using enabled

end Left

end Kesharon.Host

import Kesharon.EventStream.Parties
import Kesharon.Host.Alignment

namespace Kesharon.EventStream

open Framework Application Daemon Host Ipc Protocol Server

def PartyAction.unhealthy : PartyAction → Bool
  | .host action => action.unhealthy
  | _ => false

def PartyAction.advances : PartyAction → Bool
  | .host action => action.advances
  | _ => false

/-- Steps that are not the host's neither answer nor bring the worker on. -/
theorem PartyAction.calm {a : PartyAction} (other : ∀ b, a ≠ .host b) :
    a.unhealthy = false ∧ a.advances = false := by
  cases a with
  | host b => exact absurd rfl (other b)
  | _ => exact ⟨rfl, rfl⟩

variable {σ : Type}

/-- Steps taken while the worker is in an attempt to read. -/
abbrev inAttempt (s : Parties σ) (_ : PartyAction) (_ : Parties σ) : Prop :=
  s.host.worker.location.inAttempt = true

/-- The worker finds no client at its health check, or the check fails. -/
def Unhealthy (tr : List (PartyAction × PartyOutput)) : Prop := ∃ p ∈ tr, p.1.unhealthy = true

/-- The worker has left its read loop and sent `Reconnecting`. -/
def Noticed (tr : List (PartyAction × PartyOutput)) (s : Parties σ) : Prop :=
  s.host.worker.location = .connectCheck ∧ ∃ p ∈ tr, p.2.host.reconnects = true

instance (tr : List (PartyAction × PartyOutput)) : Decidable (Unhealthy tr) :=
  inferInstanceAs (Decidable (∃ p ∈ tr, _))

instance (tr : List (PartyAction × PartyOutput)) (s : Parties σ) : Decidable (Noticed tr s) :=
  inferInstanceAs (Decidable (_ ∧ ∃ p ∈ tr, _))

/-- What every step keeps. -/
structure Kept (client : DaemonClient) (s : Parties σ) : Prop where
  thread : s.ClosedByThread
  valid : s.host.wire.Valid
  calls : Calls client s.host

/-- What an attempt on a dead connection has come to. -/
structure Attempted (client : DaemonClient) (start : Parties σ)
    (tr : List (PartyAction × PartyOutput)) (s : Parties σ) : Prop where
  kept : Kept client s
  attempt : Attempt s.host.worker (tr.any fun p => p.1.unhealthy)
    (tr.any fun p => p.2.host.reconnects)
  wire : s.host.wire = start.host.wire
  left : s.host.left + tr.countP (fun p => p.1.advances) ≤ start.host.left

section Runs

variable [StateRepository σ] {client : DaemonClient} {streamId : String} {s s' t : Parties σ}
variable {a : PartyAction} {o : PartyOutput} {tr tr' : List (PartyAction × PartyOutput)}

theorem Kept.step (h : Kept client s) (step : s.step client streamId a = some (s', o)) :
    Kept client s' := by
  obtain ⟨moves, thread⟩ := Parties.step_moves h.thread step
  cases moves with
  | host moved => exact ⟨thread, HostStream.step_valid h.valid moved, h.calls.step moved⟩
  | daemon action _ _ _ moved =>
    exact ⟨thread, HostStream.step_valid h.valid moved, h.calls.step moved⟩
  | still _ _ same =>
    refine ⟨thread, ?_, ?_⟩
    · rw [same]
      exact h.valid
    · rw [same]
      exact h.calls

theorem kept_of_run {w : World σ}
    (run : (eventStream σ client streamId).Run Machine.anyStep (.new w) tr s) : Kept client s := by
  apply run.invariant
  · exact ⟨nofun, Wire.new_valid, .free rfl⟩
  · intro t a u o kept _ step
    exact kept.step step

omit [StateRepository σ] in
/-- A step of the host's stream inside an attempt, under the label it has in the run. -/
theorem Attempted.host {action : StreamAction} {start : Parties σ} (h : Attempted client start tr s)
    (drained : start.host.wire.Drained) (inside : s.host.worker.location.inAttempt = true)
    (kept : Kept client s') (moved : s.host.step client action = some (s'.host, o.host))
    (unhealthy : a.unhealthy = action.unhealthy) (advances : a.advances = action.advances) :
    Attempted client start (tr ++ [(a, o)]) s' := by
  have dead : s.host.wire.Drained := by
    rw [h.wire]
    exact drained
  obtain ⟨attempt, same, left⟩ :=
    HostStream.attempt_step h.kept.valid dead h.kept.calls inside h.attempt moved
  refine ⟨kept, ?_, same.trans h.wire, ?_⟩
  · simpa [unhealthy] using attempt
  · have before := h.left
    rw [List.countP_append, List.countP_singleton, advances]
    cases hc : action.advances <;> simp [hc] at left ⊢ <;> omega

theorem attempted_of_run {start : Parties σ} (kept : Kept client start)
    (drained : start.host.wire.Drained)
    (begun : start.host.worker.location = .readCheck ∨ start.host.worker.location = .reading)
    (attempt : (eventStream σ client streamId).Run inAttempt start tr s) :
    Attempted client start tr s := by
  apply attempt.history (P := fun tr s => Attempted client start tr s)
  · refine ⟨kept, ?_, rfl, Nat.le_refl _⟩
    rcases begun with here | here
    · exact .checking here
    · exact .reading here
  · intro tr t a u o h inside step
    have kept' := h.kept.step step
    obtain ⟨moves, _⟩ := Parties.step_moves h.kept.thread step
    cases moves with
    | host moved => exact h.host drained inside kept' moved rfl rfl
    | daemon action other quiet calm moved =>
      rw [← quiet] at moved
      obtain ⟨unhealthy, advances⟩ := PartyAction.calm other
      exact h.host drained inside kept' moved (unhealthy.trans calm.1.symm)
        (advances.trans calm.2.symm)
    | still other quiet same =>
      obtain ⟨unhealthy, advances⟩ := PartyAction.calm other
      refine ⟨kept', ?_, ?_, ?_⟩
      · rw [same]
        simpa [unhealthy, quiet, StreamOutput.reconnects] using h.attempt
      · rw [same]
        exact h.wire
      · rw [same]
        simpa [advances] using h.left

/-- A dead connection: the daemon has closed it, and the worker has read all of it. Each attempt to
read from it comes to an end, and at its end the worker has left its read loop and sent
`Reconnecting` if and only if the health check of the attempt found no healthy daemon; otherwise,
unless it was cancelled, it is back in its loop, with the same dead connection. -/
theorem closed_stream_noticed_iff (client : DaemonClient) (streamId : String) {w : World σ}
    (run : (eventStream σ client streamId).Run Machine.anyStep (.new w) tr s)
    (dead : s.host.wire.Drained)
    (begun : s.host.worker.location = .readCheck ∨ s.host.worker.location = .reading)
    (attempt : (eventStream σ client streamId).Run inAttempt s tr' t) :
    s.serving = .closed ∧
    tr'.countP (fun p => p.1.advances) ≤ 157 ∧
    (t.host.worker.location.inAttempt = true → ∃ a, a.advances = true ∧
      (t.step client streamId a).isSome = true) ∧
    (t.host.worker.location.inAttempt = false → (Noticed tr' t ↔ Unhealthy tr') ∧
      (¬ Unhealthy tr' → t.host.worker.cancelled = true ∨
        t.host.worker.location = .loopCheck ∧ t.host.wire = s.host.wire)) := by
  have kept := kept_of_run run
  have end_ := attempted_of_run kept dead begun attempt
  refine ⟨?_, ?_, ?_, ?_⟩
  · apply kept.thread
    rw [dead]
    simp
  · have left := end_.left
    have most : s.host.left ≤ 157 := by
      have few := kept.calls.turnsLeft_le
      unfold HostStream.left
      unfold READ_TIMEOUT at few
      rcases begun with here | here
      · rw [here]
        exact Nat.le_refl _
      · rw [here]
        change s.host.turnsLeft + 5 ≤ 157
        omega
    omega
  · intro inside
    have dead' : t.host.wire.Drained := by
      rw [end_.wire]
      exact dead
    obtain ⟨a, advances, enabled, own⟩ := HostStream.goes_on dead' end_.kept.calls inside
    refine ⟨.host a, advances, ?_⟩
    rcases own with rfl | rfl | ⟨action, rfl⟩ <;>
      simpa [Parties.step, Parties.hostStep] using enabled
  · intro outside
    have unhealthy : Unhealthy tr' ↔ (tr'.any fun p => p.1.unhealthy) = true := by
      simp [Unhealthy]
    have sent : (∃ p ∈ tr', p.2.host.reconnects = true) ↔
        (tr'.any fun p => p.2.host.reconnects) = true := by
      simp
    unfold Noticed
    rw [unhealthy, sent]
    have came := end_.attempt
    generalize (tr'.any fun p => p.1.unhealthy) = u,
      (tr'.any fun p => p.2.host.reconnects) = n at came
    cases came with
    | stayed here => exact ⟨by simp [here], fun _ => .inr ⟨here, end_.wire⟩⟩
    | left here why =>
      refine ⟨by simp [here], ?_⟩
      intro healthy
      exact .inl (why.resolve_left healthy)
    | checking here | reading here | received here | recheckingClient here | checkingHealth here
    | lost here => simp [here, Location.inAttempt] at outside

end Runs

/-- A worker subscribes to a fresh daemon, and another subscriber replaces it: the daemon closes the
connection, which the worker has read to its end. -/
def replacing : List PartyAction :=
  [.host (.worker .check), .host (.worker (.client true)), .host (.worker .check), .host .connect,
    .serve (.subscribe "r"), .serve .wrote, .serve .wrote, .arrive 219,
    .host (.turn (.bytes 4) 0), .host (.turn (.bytes 200) 0), .host (.turn (.bytes 4) 0),
    .host (.turn (.bytes 200) 0), .host (.worker .check), .host (.worker (.send true)),
    .host (.worker .check), .session .subscribe, .serve .recv, .serve .dropReceiver,
    .serve .dropStream]

/-- An attempt to read, up to its health check. -/
def timingOut : List PartyAction :=
  [.host (.worker .check), .host .startRead, .host (.turn .zero 100), .host (.turn .zero 100),
    .host (.worker .check), .host (.worker (.client true))]

/-- A daemon that is not healthy any more is noticed. -/
def lostDaemon : List PartyAction :=
  timingOut ++ [.host (.worker (.healthReturns false)), .host (.worker (.send true))]

def healthyDaemon : List PartyAction := timingOut ++ [.host (.worker (.healthReturns true))]

/-- A project is opened, and the worker makes another attempt. -/
def opening : List PartyAction :=
  [.session (.dispatch ⟨PROTOCOL_VERSION,"a",.openProject "/p",some "k"⟩),
    .host (.worker .check)] ++ healthyDaemon

theorem closed_stream_noticed_lost :
    ∃ tr s tr' t, (eventStream Empty firstClient "s").Run Machine.anyStep (.new World.new) tr s ∧
      s.host.wire.Drained ∧ (eventStream Empty firstClient "s").Run inAttempt s tr' t ∧
      Unhealthy tr' ∧ Noticed tr' t := by
  have run := Machine.run_of_exec_isSome (eventStream Empty firstClient "s") Machine.anyStep
    (.new World.new) replacing (by decide +kernel)
  have attempt := Machine.run_of_exec_isSome (eventStream Empty firstClient "s") inAttempt
    (((eventStream Empty firstClient "s").exec Machine.anyStep (.new World.new) replacing).get
      (by decide +kernel)).2 lostDaemon (by decide +kernel)
  obtain ⟨_, _, _, noticed⟩ := closed_stream_noticed_iff firstClient "s" run (by decide +kernel)
    (.inl (by decide +kernel)) attempt
  exact ⟨_, _, _, _, run, by decide +kernel, attempt, by decide +kernel,
    (noticed (by decide +kernel)).1.mpr (by decide +kernel)⟩

/-- With a healthy daemon the worker stays with the dead connection, and sends nothing when the
daemon emits its next event. -/
theorem replaced_stream_unnoticed :
    ∃ tr s tr' t tr'' u,
      (eventStream Empty firstClient "s").Run Machine.anyStep (.new World.new) tr s ∧
      s.host.wire.Drained ∧ s.host.worker.location = .readCheck ∧
      (eventStream Empty firstClient "s").Run inAttempt s tr' t ∧
      t.host.worker.location = .loopCheck ∧ ¬ Noticed tr' t ∧
      (eventStream Empty firstClient "s").Run Machine.anyStep t tr'' u ∧
      (∃ p ∈ tr'', p.2.session.events ≠ []) ∧ (∀ p ∈ tr'', p.2.host.worker.sent = none) ∧
      u.host.worker.location = .loopCheck ∧ u.host.wire = s.host.wire := by
  have run := Machine.run_of_exec_isSome (eventStream Empty firstClient "s") Machine.anyStep
    (.new World.new) replacing (by decide +kernel)
  have attempt := Machine.run_of_exec_isSome (eventStream Empty firstClient "s") inAttempt
    (((eventStream Empty firstClient "s").exec Machine.anyStep (.new World.new) replacing).get
      (by decide +kernel)).2 healthyDaemon (by decide +kernel)
  have after := Machine.run_of_exec_isSome (eventStream Empty firstClient "s") Machine.anyStep
    (((eventStream Empty firstClient "s").exec inAttempt
      (((eventStream Empty firstClient "s").exec Machine.anyStep (.new World.new) replacing).get
        (by decide +kernel)).2 healthyDaemon).get (by decide +kernel)).2 opening
    (by decide +kernel)
  exact ⟨_, _, _, _, _, _, run, by decide +kernel, by decide +kernel, attempt, by decide +kernel,
    by decide +kernel, after, by decide +kernel, by decide +kernel, by decide +kernel,
    by decide +kernel⟩

end Kesharon.EventStream

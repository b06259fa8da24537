import Kesharon.Host.Attempt
import Kesharon.Server.Subscription

namespace Kesharon.EventStream

open Framework Application Daemon Host Ipc Protocol Server

/-- The session of a daemon, the thread that serves the connection of the host's worker, and the
worker with that connection. -/
structure Parties (σ : Type) where
  session : World σ
  serving : Serving
  host : HostStream

/-- Steps of other threads around the session, of the serving thread, of the transport and of
the host's worker. -/
inductive PartyAction where
  | session (action : Action)
  | serve (action : ServeAction)
  | arrive (count : Nat)
  | host (action : StreamAction)

structure PartyOutput where
  session : Output := {}
  host : StreamOutput := {}

/-- Other threads leave the serving thread's receiver alone. -/
def ownsReceiver (serving : Serving) : Action → Bool
  | .recv channel | .hangUp channel => serving.channel = some channel
  | _ => false

namespace Parties

variable {σ : Type}

def new (session : World σ) : Parties σ := ⟨session,.absent,.new⟩

/-- A step of the host's stream. -/
def hostStep (client : DaemonClient) (s : Parties σ) (action : StreamAction) :
    Option (Parties σ × PartyOutput) :=
  (s.host.step client action).map fun r => ({ s with host := r.1 }, { host := r.2 })

def step [StateRepository σ] (client : DaemonClient) (streamId : String) (s : Parties σ) :
    PartyAction → Option (Parties σ × PartyOutput)
  | .session action =>
    if ownsReceiver s.serving action then none
    else
      (s.session.step streamId action).map fun r =>
        ({ s with session := r.1 }, { session := r.2 })
  | .serve action =>
    (Connection.step client.responses client.messages streamId
        ⟨s.session,s.serving,s.host.wire⟩ action).map fun r =>
      (⟨r.1.session,r.1.serving,{ s.host with wire := r.1.wire }⟩, { session := r.2 })
  | .arrive count => s.hostStep client (.arrive count)
  | .host (.write _) | .host (.arrive _) | .host (.close _) => none
  | .host .connect =>
    (s.hostStep client .connect).map fun r => ({ r.1 with serving := .accepted }, r.2)
  | .host action => s.hostStep client action

/-- Only the serving thread closes the connection, when it is done with it. -/
def ClosedByThread (s : Parties σ) : Prop := s.host.wire.closed ≠ none → s.serving = .closed

/-- A step is one of the host's stream, or the host stays as it is. -/
inductive HostMoves (client : DaemonClient) (s s' : Parties σ) : PartyAction → PartyOutput → Prop
    where
  | host {action : StreamAction} {o : PartyOutput}
      (step : s.host.step client action = some (s'.host, o.host)) :
      HostMoves client s s' (.host action) o
  | daemon {a : PartyAction} {o : PartyOutput} (action : StreamAction) (other : ∀ b, a ≠ .host b)
      (quiet : o.host = {}) (calm : action.unhealthy = false ∧ action.advances = false)
      (step : s.host.step client action = some (s'.host, {})) :
      HostMoves client s s' a o
  | still {a : PartyAction} {o : PartyOutput} (other : ∀ b, a ≠ .host b) (quiet : o.host = {})
      (same : s'.host = s.host) : HostMoves client s s' a o

section Steps

variable {client : DaemonClient} {streamId : String} {s s' : Parties σ}
variable {a : PartyAction} {o : PartyOutput}

theorem hostStep_eq {action : StreamAction} (h : s.hostStep client action = some (s', o)) :
    s.host.step client action = some (s'.host, o.host) ∧ s' = { s with host := s'.host } := by
  simp only [hostStep, Option.map_eq_some_iff, Prod.exists, Prod.mk.injEq] at h
  obtain ⟨host, out, step, rfl, rfl⟩ := h
  exact ⟨step, rfl⟩

theorem hostStep_closed (action : StreamAction) (other : ∀ count, action ≠ .close count)
    (kept : s.ClosedByThread) (h : s.hostStep client action = some (s', o)) :
    s'.ClosedByThread := by
  obtain ⟨step, same⟩ := hostStep_eq h
  intro closed
  rw [same]
  exact kept (HostStream.step_closed step other closed)

theorem serve_moves [StateRepository σ] {action : ServeAction} (kept : s.ClosedByThread)
    (h : s.step client streamId (.serve action) = some (s', o)) :
    HostMoves client s s' (.serve action) o ∧ s'.ClosedByThread := by
  simp only [step, Option.map_eq_some_iff, Prod.exists, Prod.mk.injEq] at h
  obtain ⟨c, out, served, rfl, rfl⟩ := h
  obtain ⟨opened, wired⟩ := Connection.step_wired served
  have unclosed : s.host.wire.closed = none := by
    by_contra closed
    exact opened.2 (kept closed)
  cases wired with
  | still wire =>
    change c.wire = s.host.wire at wire
    refine ⟨.still nofun rfl ?_, ?_⟩
    · change { s.host with wire := c.wire } = s.host
      rw [wire]
    · intro closed
      change c.wire.closed ≠ none at closed
      rw [wire] at closed
      exact absurd unclosed closed
  | @wrote payload fits wire =>
    change c.wire = s.host.wire.write payload at wire
    refine ⟨.daemon (.write payload) nofun rfl ⟨rfl, rfl⟩ ?_, ?_⟩
    · simp only [HostStream.step, unclosed, fits, and_self, if_true, wire]
    · intro closed
      change c.wire.closed ≠ none at closed
      rw [wire] at closed
      exact absurd unclosed closed
  | @closed count wire ended =>
    change c.wire = s.host.wire.close count at wire
    refine ⟨.daemon (.close count) nofun rfl ⟨rfl, rfl⟩ ?_, fun _ => ended⟩
    simp only [HostStream.step, unclosed, if_true, wire]

theorem step_moves [StateRepository σ] (kept : s.ClosedByThread)
    (h : s.step client streamId a = some (s', o)) :
    HostMoves client s s' a o ∧ s'.ClosedByThread := by
  cases a with
  | serve action => exact serve_moves kept h
  | session action =>
    simp only [step] at h
    split_ifs at h
    simp only [Option.map_eq_some_iff, Prod.exists, Prod.mk.injEq] at h
    obtain ⟨session, out, _, rfl, rfl⟩ := h
    exact ⟨.still nofun rfl rfl, kept⟩
  | arrive count =>
    obtain ⟨step, _⟩ := hostStep_eq h
    have quiet : o.host = {} := (Prod.mk.inj (Option.some.inj step)).2.symm
    rw [quiet] at step
    exact ⟨.daemon _ nofun quiet ⟨rfl, rfl⟩ step, hostStep_closed (.arrive count) nofun kept h⟩
  | host action =>
    cases action with
    | write payload | arrive count | close count => simp [step] at h
    | connect =>
      simp only [step, Option.map_eq_some_iff, Prod.exists, Prod.mk.injEq] at h
      obtain ⟨t, out, begun, rfl, rfl⟩ := h
      obtain ⟨step, _⟩ := hostStep_eq begun
      refine ⟨.host step, ?_⟩
      have fresh : t.host.wire.closed = none := by
        have moves := HostStream.step_moves step
        generalize t.host = host, out.host = result at moves
        cases moves
        rfl
      intro closed
      exact absurd fresh closed
    | worker action =>
      exact ⟨.host (hostStep_eq h).1, hostStep_closed (.worker action) nofun kept h⟩
    | startRead => exact ⟨.host (hostStep_eq h).1, hostStep_closed .startRead nofun kept h⟩
    | turn read late =>
      exact ⟨.host (hostStep_eq h).1, hostStep_closed (.turn read late) nofun kept h⟩

end Steps

end Parties

def eventStream (σ : Type) [StateRepository σ] (client : DaemonClient) (streamId : String) :
    Machine (Parties σ) PartyAction PartyOutput :=
  ⟨Parties.step client streamId⟩

end Kesharon.EventStream

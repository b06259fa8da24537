import Kesharon.Daemon.Events
import Mathlib.Data.Finset.Image

namespace Kesharon.Daemon

open Framework Domain Protocol Application

/-- What a snapshot says and events update. -/
@[ext] structure Replica where
  project : Option ProjectSnapshot
  active : Finset OperationSnapshot
  lastSequence : UInt64

namespace Replica

def ofSnapshot (s : WorkspaceSnapshot) : Replica :=
  ⟨s.project,s.activeOperations.toFinset,s.lastSequence⟩

def start (v : Replica) (requestId : String) (kind : OperationKind) : Finset OperationSnapshot :=
  insert ⟨requestId,kind,.running⟩ v.active

def finish (v : Replica) (requestId : String) : Finset OperationSnapshot :=
  v.active.filter fun op => op.requestId ≠ requestId

/-- A client applies an event. -/
def apply (v : Replica) (e : DaemonEvent) : Replica :=
  match e.payload with
  | .operationStarted r kind => ⟨v.project,v.start r kind,e.sequence⟩
  | .projectOpened r project => ⟨some project,v.finish r,e.sequence⟩
  | .operationCancelled r => ⟨v.project,v.finish r,e.sequence⟩
  | .operationFailed r _ _ => ⟨v.project,v.finish r,e.sequence⟩

end Replica

namespace World

variable {σ : Type}

def replica (streamId : String) (w : World σ) : Replica :=
  .ofSnapshot (w.snapshotLocked streamId)

theorem mem_replica_active (streamId : String) (w : World σ) (op : OperationSnapshot) :
    op ∈ (w.replica streamId).active ↔ op.requestId ∈ w.state.active := by
  simp only [replica, Replica.ofSnapshot, snapshotLocked, List.mem_toFinset, List.mem_map,
    AList.mem_keys]
  constructor
  · intro h
    obtain ⟨r, hr, rfl⟩ := h
    exact hr
  · intro h
    exact ⟨op.requestId, h, rfl⟩

/-- The replica reads three fields of the session state. -/
theorem replica_congr {streamId : String} {w w' : World σ}
    (project : w'.state.project = w.state.project) (active : w'.state.active = w.state.active)
    (sequence : w'.state.sequence = w.state.sequence) :
    w'.replica streamId = w.replica streamId := by
  simp only [replica, Replica.ofSnapshot, snapshotLocked, project, active, sequence]

end World

section Steps

variable {σ : Type} [StateRepository σ] {streamId : String} {w w' : World σ}

omit [StateRepository σ] in
theorem replica_begun (w : World σ) (request : ClientRequest) (path key : String)
    (event : DaemonEvent) (h : event.payload = .operationStarted request.requestId .openProject) :
    (w.begun request path key event).replica streamId = (w.replica streamId).apply event := by
  obtain ⟨sub, hst⟩ := begun_state w request path key event
  ext op
  · simp only [World.replica, Replica.ofSnapshot, World.snapshotLocked, hst, Replica.apply, h]
  · rw [World.mem_replica_active, hst, Replica.apply, h]
    simp only [Replica.start, Finset.mem_insert, World.mem_replica_active, AList.mem_insert]
    constructor
    · intro hop
      rcases hop with hr | hr
      · exact .inl (hr ▸ rfl)
      · exact .inr hr
    · intro hop
      rcases hop with rfl | hr
      · exact .inl rfl
      · exact .inr hr
  · simp only [World.replica, Replica.ofSnapshot, World.snapshotLocked, hst, Replica.apply, h]

/-- The terminal event of a finishing call removes its operation and carries the project that
the session now has. -/
theorem replica_settled {flag : FlagId} {call : OpenCall}
    {result : Except ApplicationError Project} {repo : Option σ}
    {project : Option ProjectSnapshot} {payload : DaemonEventPayload} {event : DaemonEvent}
    {response : ServerResponse} {saved : Option Project}
    (settles : Settlement w call.request.requestId result repo project payload response saved)
    (h : event.payload = payload) :
    (w.settled flag call repo project event).replica streamId =
      (w.replica streamId).apply event := by
  obtain ⟨sub, hst⟩ := settled_state w flag call repo project event
  have hactive (op : OperationSnapshot) :
      op ∈ ((w.settled flag call repo project event).replica streamId).active ↔
        op ∈ (w.replica streamId).finish call.request.requestId := by
    simp only [World.mem_replica_active, hst, Replica.finish, Finset.mem_filter,
      AList.mem_erase]
    exact and_comm
  have hproject : ((w.settled flag call repo project event).replica streamId).project = project := by
    simp only [World.replica, Replica.ofSnapshot, World.snapshotLocked, hst]
  have hsequence :
      ((w.settled flag call repo project event).replica streamId).lastSequence = event.sequence := by
    simp only [World.replica, Replica.ofSnapshot, World.snapshotLocked, hst]
  have happly : (w.replica streamId).apply event =
      ⟨project,(w.replica streamId).finish call.request.requestId,event.sequence⟩ := by
    unfold Replica.apply
    rw [h]
    cases settles <;> rfl
  rw [happly]
  ext op
  · rw [hproject]
  · exact hactive op
  · rw [hsequence]

/-- The replica follows the events of a step. -/
theorem outcome_replica {a : Action} {o : Output} (hs : Outcome streamId w a w' o) :
    w'.replica streamId = o.events.foldl Replica.apply (w.replica streamId) := by
  cases hs with
  | answered request response => rfl
  | begun request path key event method keyed notCompleted notInFlight idle next =>
    exact replica_begun w request path key event next.payload_eq
  | cancelled request target key completion => exact World.replica_congr rfl rfl rfl
  | moved _ flag call execution running moves => exact World.replica_congr rfl rfl rfl
  | finished flag call result repo project payload event response saved completion running here
      settles next completes =>
    have same : (w.finished flag call repo project event completion).replica streamId =
        (w.settled flag call repo project event).replica streamId :=
      World.replica_congr rfl rfl rfl
    rw [same]
    exact replica_settled settles next.payload_eq
  | subscribed =>
    obtain ⟨sub, chans, count, hw, ho⟩ := subscribe_frame streamId w
    rw [ho, hw]
    exact World.replica_congr rfl rfl rfl
  | received ch r c known alive recv => exact World.replica_congr rfl rfl rfl
  | hungUp ch known => exact World.replica_congr rfl rfl rfl

/-- Over a run the replica follows all events. -/
theorem run_replica {s t : World σ} {tr : List (Action × Output)}
    (run : (session σ streamId).Run healthyStep s tr t) (start : Healthy s) :
    t.replica streamId = (emitted tr).foldl Replica.apply (s.replica streamId) := by
  have follows := run.foldl_observe (f := fun w => w.replica streamId)
    (g := fun v p => p.2.events.foldl Replica.apply v) (I := Healthy) start
    (fun _ _ _ _ _ hok _ => hok)
    (fun _ _ _ _ h hok hs => outcome_replica (step_outcome h hok hs))
  rw [emitted, List.foldl_flatMap]
  exact follows

/-- The snapshot captured by the step at a position of a trace, if it is one that captures. -/
def snapshotAt (tr : List (Action × Output)) (i : Nat) : Option WorkspaceSnapshot :=
  tr[i]?.bind fun p => p.2.subscribed.bind fun r => r.toOption.map Prod.fst

theorem snapshotAt_eq_some {tr : List (Action × Output)} {i : Nat} {s : WorkspaceSnapshot}
    (h : snapshotAt tr i = some s) :
    ∃ a o ch, tr[i]? = some (a, o) ∧ o.subscribed = some (.ok (s, ch)) := by
  obtain ⟨⟨a, o⟩, hi, hp⟩ := Option.bind_eq_some_iff.mp h
  obtain ⟨r, hr, hs⟩ := Option.bind_eq_some_iff.mp hp
  obtain ⟨⟨s', ch⟩, hok, rfl⟩ := Option.map_eq_some_iff.mp hs
  cases r with
  | error e => simp [Except.toOption] at hok
  | ok q =>
    obtain rfl : q = (s', ch) := by simpa [Except.toOption] using hok
    exact ⟨a, o, ch, hi, hr⟩

/-- A step that captures a snapshot captures the state it leaves behind. -/
theorem outcome_snapshot {a : Action} {o : Output} {s : WorkspaceSnapshot} {ch : ChannelId}
    (h : Healthy w) (hs : Outcome streamId w a w' o) (ho : o.subscribed = some (.ok (s, ch))) :
    s.lastSequence = w'.state.sequence ∧ Replica.ofSnapshot s = w'.replica streamId := by
  cases hs with
  | subscribed =>
    have lock : ¬ w.statePoisoned = true := by simp [h.state_lock]
    unfold World.subscribe at ho ⊢
    rw [if_neg lock] at ho ⊢
    simp only [Option.some.injEq, Except.ok.injEq, Prod.mk.injEq] at ho
    obtain ⟨rfl, _⟩ := ho
    exact ⟨rfl, rfl⟩
  | answered => simp at ho
  | begun => simp at ho
  | cancelled => simp at ho
  | moved => simp at ho
  | finished => simp at ho
  | received => simp at ho
  | hungUp => simp at ho

/-- A captured snapshot is the state after its step. -/
theorem run_snapshot {w₀ w : World σ} {tr : List (Action × Output)} {i : Nat}
    {s : WorkspaceSnapshot} (start : Healthy w₀)
    (run : (session σ streamId).Run healthyStep w₀ tr w) (h : snapshotAt tr i = some s) :
    ∃ xs ys t, tr = xs ++ ys ∧ xs.length = i + 1 ∧ Healthy t ∧
      (session σ streamId).Run healthyStep w₀ xs t ∧
      (session σ streamId).Run healthyStep t ys w ∧
      s.lastSequence = t.state.sequence ∧ Replica.ofSnapshot s = t.replica streamId := by
  obtain ⟨a, o, ch, hi, ho⟩ := snapshotAt_eq_some h
  obtain ⟨xs, ys, u, t, rfl, hlen, before, hok, hs, after⟩ := run.at_index hi
  have healthy := run_healthy before start
  obtain ⟨hq, hr⟩ := outcome_snapshot healthy (step_outcome healthy hok hs) ho
  exact ⟨xs ++ [(a, o)], ys, t, by simp, by simp [hlen], hok, before.snoc hok hs, after, hq, hr⟩

/-- Folding the events between two captured snapshots over the first gives the second, and
folding all events after a snapshot over it gives the session's present state. -/
theorem snapshots_agree {w₀ w : World σ} {tr : List (Action × Output)} {i j : Nat}
    {s t : WorkspaceSnapshot} (start : Started w₀)
    (run : (session σ streamId).Run healthyStep w₀ tr w) (first : snapshotAt tr i = some s)
    (second : snapshotAt tr j = some t) (order : i < j) :
    Replica.ofSnapshot t =
        ((emitted tr).filter (fun e => s.lastSequence < e.sequence ∧
          e.sequence ≤ t.lastSequence)).foldl Replica.apply (.ofSnapshot s) ∧
      w.replica streamId =
        ((emitted tr).filter (fun e => s.lastSequence < e.sequence)).foldl
          Replica.apply (.ofSnapshot s) := by
  obtain ⟨xs, rest, u, rfl, hlen, hu, before, since, hsq, hsr⟩ :=
    run_snapshot start.healthy run first
  have second' : snapshotAt rest (j - xs.length) = some t := by
    rw [snapshotAt, ← List.getElem?_append_right (by omega)]
    exact second
  obtain ⟨ys, zs, v, rfl, _, _, between, after, htq, htr⟩ := run_snapshot hu since second'
  constructor
  · rw [hsq, htq, hsr, htr, ← List.append_assoc, emitted_between before between after start.healthy]
    exact run_replica between hu
  · rw [hsq, hsr, emitted_since before since start.healthy]
    exact run_replica since hu

end Steps

/-- A client that subscribes while one open is running and again after it has failed. -/
theorem snapshots_agree_failed_open :
    ∃ tr w s t, (session Empty "s").Run healthyStep World.new tr w ∧
      snapshotAt tr 1 = some s ∧ snapshotAt tr 5 = some t ∧
      s.activeOperations = [⟨"a",.openProject,.running⟩] ∧ t.activeOperations = [] ∧
      Replica.ofSnapshot t =
        ((emitted tr).filter (fun e => s.lastSequence < e.sequence ∧
          e.sequence ≤ t.lastSequence)).foldl Replica.apply (.ofSnapshot s) := by
  have run := Machine.run_of_exec_isSome (session Empty "s") healthyStep World.new [
    .dispatch ⟨PROTOCOL_VERSION,"a",.openProject "/p",some "k"⟩,
    .subscribe,
    .firstCheck 0,
    .inspectReturns 0 (.error (.repository "notGitRepository")),
    .finish 0,
    .subscribe] (by decide)
  refine ⟨_, _, ⟨"s",1,none,[⟨"a",.openProject,.running⟩]⟩, ⟨"s",2,none,[]⟩, run, ?first, ?second,
    rfl, rfl, (snapshots_agree .new run ?first ?second ?order).1⟩
  case first => decide
  case second => decide
  case order => decide

end Kesharon.Daemon

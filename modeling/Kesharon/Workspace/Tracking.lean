import Kesharon.Daemon.Replica
import Kesharon.Daemon.Visible
import Kesharon.Workspace.Reducer

namespace Kesharon.Workspace

open Framework Application Daemon Protocol

theorem applyEvent_project (state : WorkspaceState) (event : DaemonEvent) :
    (state.applyEvent event).project = projectAfter event state.project := by
  unfold WorkspaceState.applyEvent projectAfter
  cases event.payload with
  | operationStarted requestId kind => cases kind; rfl
  | _ => rfl

/-- The events of a stream, applied one behind the other. -/
def applyEvents (state : WorkspaceState) (events : List DaemonEvent) : WorkspaceState :=
  dispatchAll state (events.map .applyEvent)

@[simp] theorem applyEvents_nil (state : WorkspaceState) : applyEvents state [] = state := rfl

theorem applyEvents_append (state : WorkspaceState) (xs ys : List DaemonEvent) :
    applyEvents state (xs ++ ys) = applyEvents (applyEvents state xs) ys := by
  simp [applyEvents, dispatchAll, List.foldl_append]

theorem applyEvents_singleton (state : WorkspaceState) (event : DaemonEvent) :
    applyEvents state [event] = state.applyEvent event := rfl

/-- What is shown of a session: its project, and one of its operations if there are any. -/
structure Tracks {σ : Type} (s : WorkspaceState) (w : World σ) : Prop where
  shown : s.openingOperation ≠ none ↔ ∃ r, r ∈ w.state.active
  member : ∀ operation, s.openingOperation = some operation →
    operation.requestId ∈ w.state.active
  project : s.project = w.state.project

section Snapshots

variable {σ : Type} {streamId : String} {w : World σ} {ops : List OperationSnapshot}

/-- A snapshot whose operations come in any order. -/
def snapshotListing (streamId : String) (w : World σ) (ops : List OperationSnapshot) :
    WorkspaceSnapshot :=
  { w.snapshotLocked streamId with activeOperations := ops }

theorem mem_listing (listing : ops.Perm (w.snapshotLocked streamId).activeOperations)
    (op : OperationSnapshot) : op ∈ ops ↔ op.requestId ∈ w.state.active := by
  rw [listing.mem_iff, ← World.mem_replica_active streamId]
  simp [World.replica, Replica.ofSnapshot]

theorem applySnapshot_tracks (s : WorkspaceState)
    (listing : ops.Perm (w.snapshotLocked streamId).activeOperations) :
    Tracks (s.applySnapshot (snapshotListing streamId w ops)) w := by
  have open_ (op : OperationSnapshot) : op.kind = .openProject := by
    cases op.kind
    rfl
  refine ⟨?_, ?_, rfl⟩
  · cases ops with
    | nil =>
      have none : (s.applySnapshot (snapshotListing streamId w [])).openingOperation = none := rfl
      rw [none]
      constructor
      · intro some
        exact absurd rfl some
      · rintro ⟨r, active⟩
        have member := (mem_listing listing ⟨r,.openProject,.running⟩).mpr active
        simp at member
    | cons op ops =>
      have active := (mem_listing listing op).mp (List.mem_cons_self ..)
      have shown : (s.applySnapshot (snapshotListing streamId w (op :: ops))).openingOperation =
          some ⟨op.requestId,s.openingPath,s.openingStatus⟩ := by
        simp [WorkspaceState.applySnapshot, snapshotListing, open_]
      rw [shown]
      simp only [ne_eq, reduceCtorEq, not_false_eq_true, true_iff]
      exact ⟨op.requestId, active⟩
  · intro operation shown
    simp only [WorkspaceState.applySnapshot, Option.map_eq_some_iff] at shown
    obtain ⟨op, found, rfl⟩ := shown
    exact (mem_listing listing op).mp (List.mem_of_find?_eq_some found)

end Snapshots

section Runs

variable {σ : Type} [StateRepository σ] {streamId : String} {w w₁ w' : World σ}
variable {tr : List (Action × Output)} {a : Action} {o : Output}

theorem step_project {s : WorkspaceState} (same : s.project = w.state.project)
    (step : w.step streamId a = some (w', o)) :
    (applyEvents s o.events).project = w'.state.project := by
  have visible := World.step_visible step
  generalize o.events = events at visible
  cases visible with
  | quiet project _ _ => rw [applyEvents_nil, same, project]
  | started sequence requestId flag project _ _ _ =>
    rw [applyEvents_singleton, applyEvent_project, same, project]
    rfl
  | ended sequence payload _ project _ _ _ =>
    rw [applyEvents_singleton, applyEvent_project, same, project]

/-- The project follows the session through every run. -/
theorem run_project {s : WorkspaceState} (same : s.project = w.state.project)
    (run : (session σ streamId).Run Machine.anyStep w tr w₁) :
    (applyEvents s (emitted tr)).project = w₁.state.project := by
  apply run.history (P := fun tr w₁ => (applyEvents s (emitted tr)).project = w₁.state.project)
  · exact same
  · intro tr t a u o before _ step
    rw [emitted_append, applyEvents_append, emitted_cons, emitted_nil, List.append_nil]
    exact step_project before step

/-- Behind an event, the card is right where the event starts an operation or ends the only
one. -/
theorem event_tracks_iff {s : WorkspaceState} {e : DaemonEvent} (same : s.project = w₁.state.project)
    (step : w₁.step streamId a = some (w', o)) (emits : o.events = [e]) :
    Tracks (s.applyEvent e) w' ↔
      (e.payload.isStarted = false → ∀ r ∈ w₁.state.active, r = e.payload.requestId) := by
  have project := step_project same step
  have visible := World.step_visible step
  rw [emits] at visible project
  rw [applyEvents_singleton] at project
  have card := applyEvent_openingOperation s e
  cases visible with
  | started sequence requestId flag _ active _ _ =>
    constructor
    · intro _ terminal
      cases terminal
    · intro _
      have member : requestId ∈ w'.state.active := by
        rw [active]
        exact (AList.mem_insert _).mpr (.inl rfl)
      refine ⟨?_, ?_, project⟩
      · rw [card]
        simp only [DaemonEventPayload.isStarted, if_true, ne_eq, reduceCtorEq, not_false_eq_true,
          true_iff]
        exact ⟨requestId, member⟩
      · intro operation shown
        rw [card] at shown
        obtain rfl := Option.some.inj shown
        exact member
  | ended sequence payload terminal _ active _ _ =>
    simp only [terminal, Bool.false_eq_true, if_false] at card
    have left (r : String) : r ∈ w'.state.active ↔ r ≠ payload.requestId ∧ r ∈ w₁.state.active := by
      rw [active, AList.mem_erase]
    constructor
    · intro tracks _ r running
      by_contra other
      have shown := tracks.shown.mpr ⟨r, (left r).mpr ⟨other, running⟩⟩
      exact shown card
    · intro only
      refine ⟨?_, ?_, project⟩
      · rw [card]
        constructor
        · intro some
          exact absurd rfl some
        · rintro ⟨r, running⟩
          obtain ⟨other, before⟩ := (left r).mp running
          exact absurd (only terminal r before) other
      · intro operation shown
        rw [card] at shown
        cases shown

/-- What the reducer shows of a session whose snapshot it has been given and then every event.
After the snapshot it tracks the session; after an event it does exactly if the event does not end
one of several operations. The project and the position in the stream are always right. -/
theorem reducer_tracks_iff (streamId : String) (w : World σ) (s₀ : WorkspaceState)
    {ops : List OperationSnapshot}
    (listing : ops.Perm (w.snapshotLocked streamId).activeOperations) :
    let s := workspaceReducer s₀ (.applySnapshot (snapshotListing streamId w ops))
    (Tracks s w ∧ s.streamId = some streamId ∧ s.lastSequence = w.state.sequence.toNat) ∧
    ∀ tr w₁ a w' o e, (session σ streamId).Run Machine.anyStep w tr w₁ →
      (session σ streamId).step w₁ a = some (w', o) → o.events = [e] →
      let s' := applyEvents s (emitted tr ++ [e])
      (Tracks s' w' ∧ s'.streamId = some e.streamId ∧ s'.lastSequence = e.sequence.toNat ↔
        (e.payload.isStarted = false → ∀ r ∈ w₁.state.active, r = e.payload.requestId)) := by
  have start := applySnapshot_tracks s₀ listing
  refine ⟨⟨start, rfl, rfl⟩, ?_⟩
  intro tr w₁ a w' o e run step emits
  have same := run_project start.project run
  have tracks := event_tracks_iff same step emits
  dsimp only
  rw [applyEvents_append, applyEvents_singleton]
  constructor
  · rintro ⟨shown, -, -⟩
    exact tracks.mp shown
  · intro only
    exact ⟨tracks.mpr only, rfl, rfl⟩

end Runs

/-- An open that is running when `others` are dispatched, and whose directory is no repository. -/
def failingOpen (others : List ClientRequest) : List Action :=
  .dispatch ⟨PROTOCOL_VERSION,"a",.openProject "/p",some "k"⟩ :: others.map .dispatch ++
    [.firstCheck 0, .inspectReturns 0 (.error (.repository "notGitRepository"))]

/-- An open that fails alone takes its card away. -/
theorem reducer_tracks_alone :
    ∃ tr w₁ w' o e, (session Empty "s").Run Machine.anyStep World.new tr w₁ ∧
      (session Empty "s").step w₁ (.finish 0) = some (w', o) ∧ o.events = [e] ∧
      Tracks (applyEvents (workspaceReducer initialState
        (.applySnapshot (snapshotListing "s" (World.new : World Empty) []))) (emitted tr ++ [e])) w' := by
  have runs : ((session Empty "s").exec Machine.anyStep World.new (failingOpen [])).isSome := by
    decide
  have run := Machine.run_of_exec_isSome _ _ _ _ runs
  have step : (session Empty "s").step (((session Empty "s").exec Machine.anyStep World.new
      (failingOpen [])).get runs).2 (.finish 0) = some (_, _) := rfl
  have tracks := (reducer_tracks_iff "s" (World.new : World Empty) initialState (.refl _)).2
  refine ⟨_, _, _, _, _, run, step, rfl, ((tracks _ _ _ _ _ _ run step rfl).mpr ?_).1⟩
  intro _ r active
  exact List.mem_singleton.mp active

/-- Of two opens that run at once one fails: the card is gone, and the other still runs. -/
theorem overlapping_open_untracked :
    ∃ tr w₁ w' o e, (session Empty "s").Run Machine.anyStep World.new tr w₁ ∧
      (session Empty "s").step w₁ (.finish 0) = some (w', o) ∧ o.events = [e] ∧
      "b" ∈ w'.state.active ∧
      (applyEvents (workspaceReducer initialState (.applySnapshot (snapshotListing "s"
        (World.new : World Empty) []))) (emitted tr ++ [e])).openingOperation = none ∧
      ¬ Tracks (applyEvents (workspaceReducer initialState (.applySnapshot (snapshotListing "s"
        (World.new : World Empty) []))) (emitted tr ++ [e])) w' := by
  have runs : ((session Empty "s").exec Machine.anyStep World.new
      (failingOpen [⟨PROTOCOL_VERSION,"b",.openProject "/q",some "l"⟩])).isSome := by decide
  have run := Machine.run_of_exec_isSome _ _ _ _ runs
  have step : (session Empty "s").step (((session Empty "s").exec Machine.anyStep World.new
      (failingOpen [⟨PROTOCOL_VERSION,"b",.openProject "/q",some "l"⟩])).get runs).2 (.finish 0) =
    some (_, _) := rfl
  refine ⟨_, _, _, _, _, run, step, rfl, List.mem_singleton.mpr rfl, rfl, ?_⟩
  intro tracks
  have shown := tracks.shown.mpr ⟨"b", List.mem_singleton.mpr rfl⟩
  exact absurd rfl shown

end Kesharon.Workspace

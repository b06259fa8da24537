import Kesharon.Bridge.Accepted
import Kesharon.EventStream.View
import Kesharon.Framework.Shuffle
import Kesharon.Workspace.Tracking

namespace Kesharon.EventStream

open Framework Bridge Daemon Host Protocol Script Workspace

/-- The updates of a channel that its callback hands on: the decoder has to take them. How a script
reads a number that is no natural is a parameter. -/
def received (numerals : String → Rat) (updates : List DaemonStreamUpdate) :
    List DaemonStreamUpdate :=
  updates.filter fun update => (onMessage (ofJson numerals update.toJson)).isSome

/-- What updates alone make of a window, without the replies to its commands. -/
def windowOf (updates : List DaemonStreamUpdate) : WorkspaceState :=
  dispatchAll initialState (updates.flatMap updateActions)

/-- A window shows what is known, and nothing before. -/
def Displays (streamId : String) (window : WorkspaceState) : Option Replica → Prop
  | none => window.project = none ∧ window.streamId = none ∧ window.lastSequence = 0
  | some replica => window.project = replica.project ∧ window.streamId = some streamId ∧
    window.lastSequence = replica.lastSequence.toNat

/-- What a channel is told: each update is of the stream, and takes the view no step back. -/
inductive Tale (streamId : String) : List DaemonStreamUpdate → Prop where
  | nil : Tale streamId []
  | snoc {updates : List DaemonStreamUpdate} {u : DaemonStreamUpdate}
      (before : Tale streamId updates) (told : Told streamId (viewOf updates) u)
      (advances : Advances (viewOf updates) (viewStep (viewOf updates) u)) :
      Tale streamId (updates ++ [u])

theorem viewOf_snoc (updates : List DaemonStreamUpdate) (u : DaemonStreamUpdate) :
    viewOf (updates ++ [u]) = viewStep (viewOf updates) u :=
  List.foldl_concat ..

theorem windowOf_snoc (updates : List DaemonStreamUpdate) (u : DaemonStreamUpdate) :
    windowOf (updates ++ [u]) = dispatchAll (windowOf updates) (updateActions u) := by
  simp [windowOf, dispatchAll]

theorem Advances.trans {view view' view'' : Option Replica} (h : Advances view view')
    (k : Advances view' view'') : Advances view view'' := by
  intro replica seen
  obtain ⟨replica', seen', le⟩ := h replica seen
  obtain ⟨replica'', seen'', le'⟩ := k replica' seen'
  exact ⟨replica'', seen'', Nat.le_trans le le'⟩

/-- The position of a message in its stream. -/
def position : StreamMessage → Nat
  | .snapshot snapshot => snapshot.lastSequence.toNat
  | .event event => event.sequence.toNat

theorem safe_iff (m : StreamMessage) : Safe m ↔ position m ≤ maxSafeInteger := by
  cases m <;> exact Iff.rfl

section Tales

variable {streamId : String} {updates : List DaemonStreamUpdate} {view : Option Replica}
variable {numerals : String → Rat} {m : StreamMessage} {u : DaemonStreamUpdate}

theorem Displays.update {window : WorkspaceState} (h : Displays streamId window view)
    (told : Told streamId view u) :
    Displays streamId (dispatchAll window (updateActions u)) (viewStep view u) := by
  cases u with
  | reconnecting | unavailable message =>
    cases view with
    | none => exact h
    | some replica => exact h
  | message m =>
    cases m with
    | snapshot snapshot => exact ⟨rfl, congrArg some told, rfl⟩
    | event event =>
      obtain ⟨stream, known, _⟩ := told
      obtain ⟨replica, rfl⟩ := Option.isSome_iff_exists.mp known
      obtain ⟨project, _, _⟩ := h
      have behind : dispatchAll window (updateActions (.message (.event event))) =
          ({ window with connection := .ready none } : WorkspaceState).applyEvent event := rfl
      rw [behind]
      refine ⟨?_, congrArg some stream, ?_⟩
      · unfold WorkspaceState.applyEvent Replica.apply
        cases event.payload with
        | operationStarted requestId kind =>
          cases kind
          exact project
        | projectOpened => rfl
        | operationCancelled | operationFailed => exact project
      · rw [applyEvent_lastSequence]
        unfold Replica.apply
        cases event.payload <;> rfl

theorem Told.built (told : Told streamId view (.message m)) : m.Built := by
  cases m with
  | snapshot snapshot => exact .snapshot snapshot
  | event event => exact told.2.2

/-- Behind a message, the view is at its position. -/
theorem Told.position (told : Told streamId view (.message m)) :
    ∃ replica, viewStep view (.message m) = some replica ∧
      replica.lastSequence.toNat = position m := by
  cases m with
  | snapshot snapshot => exact ⟨_, rfl, rfl⟩
  | event event =>
    obtain ⟨_, known, _⟩ := told
    obtain ⟨replica, rfl⟩ := Option.isSome_iff_exists.mp known
    refine ⟨replica.apply event, rfl, ?_⟩
    unfold Replica.apply
    cases event.payload <;> rfl

/-- No message is ahead of the view. -/
theorem Tale.within (h : Tale streamId updates) :
    ∀ m, .message m ∈ updates → m.Built ∧ ∃ replica, viewOf updates = some replica ∧
      position m ≤ replica.lastSequence.toNat := by
  induction h with
  | nil =>
    intro m among
    cases among
  | @snoc updates u before told advances ih =>
    intro m among
    rw [viewOf_snoc]
    rcases List.mem_append.mp among with old | new
    · obtain ⟨built, replica, seen, le⟩ := ih m old
      obtain ⟨replica', seen', le'⟩ := advances replica seen
      exact ⟨built, replica', seen', Nat.le_trans le le'⟩
    · obtain rfl := List.mem_singleton.mp new
      obtain ⟨replica, seen, here⟩ := told.position
      exact ⟨told.built, replica, seen, Nat.le_of_eq here.symm⟩

/-- As long as the view is at a safe position, every update has been handed on. -/
theorem Tale.received_eq (h : Tale streamId updates)
    (safe : ∀ replica, viewOf updates = some replica →
      replica.lastSequence.toNat ≤ maxSafeInteger) : received numerals updates = updates := by
  apply List.filter_eq_self.mpr
  intro u among
  cases u with
  | reconnecting =>
    obtain ⟨v, _, handed, _⟩ := agreesOnUpdate_reconnecting numerals
    rw [handed]
    rfl
  | unavailable text =>
    obtain ⟨v, _, handed, _⟩ := agreesOnUpdate_unavailable numerals text
    rw [handed]
    rfl
  | message m =>
    obtain ⟨built, replica, seen, le⟩ := h.within m among
    have small := Nat.le_trans le (safe replica seen)
    exact (onMessage_isSome_iff numerals built).mpr ((safe_iff m).mpr small)

theorem Tale.displays (h : Tale streamId updates) :
    Displays streamId (windowOf updates) (viewOf updates) := by
  induction h with
  | nil => exact ⟨rfl, rfl, rfl⟩
  | @snoc updates u before told advances ih =>
    rw [windowOf_snoc, viewOf_snoc]
    exact ih.update told

theorem Tale.last (h : Tale streamId (updates ++ [u])) :
    Tale streamId updates ∧ Told streamId (viewOf updates) u ∧
      Advances (viewOf updates) (viewOf (updates ++ [u])) := by
  generalize whole : updates ++ [u] = all at h
  cases h with
  | nil => simp at whole
  | @snoc updates' u' before told advances =>
    obtain ⟨rfl, same⟩ := List.append_inj' whole rfl
    obtain rfl : u = u' := by simpa using same
    rw [← whole, viewOf_snoc]
    exact ⟨before, told, advances⟩

theorem received_snoc (numerals : String → Rat) (updates : List DaemonStreamUpdate)
    (u : DaemonStreamUpdate) : received numerals (updates ++ [u]) =
      if (onMessage (ofJson numerals u.toJson)).isSome then received numerals updates ++ [u]
      else received numerals updates := by
  unfold received
  rw [List.filter_append, List.filter_singleton]
  split_ifs with handed
  · rw [handed, cond_true]
  · rw [Bool.eq_false_iff.mpr handed, cond_false, List.append_nil]

/-- Before a message that is handed on, and behind it, all updates have been handed on. -/
theorem Tale.received_message (h : Tale streamId (updates ++ [.message m]))
    (handed : (onMessage (ofJson numerals (DaemonStreamUpdate.message m).toJson)).isSome = true) :
    received numerals updates = updates ∧
      received numerals (updates ++ [.message m]) = updates ++ [.message m] := by
  obtain ⟨before, told, advances⟩ := h.last
  have safe := (safe_iff m).mp ((onMessage_isSome_iff numerals told.built).mp handed)
  obtain ⟨behind, seen, here⟩ := told.position
  rw [← viewOf_snoc] at seen
  constructor
  · apply before.received_eq
    intro replica seen'
    obtain ⟨replica', same, le⟩ := advances replica seen'
    obtain rfl := Option.some.inj (seen.symm.trans same)
    omega
  · apply h.received_eq
    intro replica seen'
    obtain rfl := Option.some.inj (seen.symm.trans seen')
    omega

/-- What is handed on amounts to what had been told at an earlier time, and a window shows it. -/
theorem Tale.received_front (h : Tale streamId updates) (numerals : String → Rat) :
    (∃ front, front <+: updates ∧ viewOf (received numerals updates) = viewOf front) ∧
      Displays streamId (windowOf (received numerals updates))
        (viewOf (received numerals updates)) := by
  induction h with
  | nil => exact ⟨⟨[], List.prefix_refl _, rfl⟩, rfl, rfl, rfl⟩
  | @snoc updates u before told advances ih =>
    obtain ⟨⟨front, early, same⟩, displays⟩ := ih
    have still : ∃ front, front <+: updates ++ [u] ∧
        viewOf (received numerals updates) = viewOf front :=
      ⟨front, early.trans (List.prefix_append _ _), same⟩
    have whole : Tale streamId (updates ++ [u]) := .snoc before told advances
    by_cases handed : (onMessage (ofJson numerals u.toJson)).isSome = true
    · cases u with
      | message m =>
        rw [(whole.received_message handed).2]
        exact ⟨⟨_, List.prefix_refl _, rfl⟩, whole.displays⟩
      | reconnecting | unavailable text =>
        rw [received_snoc, if_pos handed, viewOf_snoc, windowOf_snoc]
        exact ⟨still, displays.update trivial⟩
    · rw [received_snoc, if_neg handed]
      exact ⟨still, displays⟩

/-- And it does not go back. -/
theorem Tale.received_advances {more : List DaemonStreamUpdate}
    (h : Tale streamId (updates ++ more)) :
    Advances (viewOf (received numerals updates))
      (viewOf (received numerals (updates ++ more))) := by
  induction more using List.reverseRecOn with
  | nil =>
    rw [List.append_nil]
    exact .refl _
  | append_singleton more u ih =>
    rw [← List.append_assoc] at h ⊢
    obtain ⟨before, told, advances⟩ := h.last
    apply (ih before).trans
    by_cases handed : (onMessage (ofJson numerals u.toJson)).isSome = true
    · cases u with
      | message m =>
        obtain ⟨all, whole⟩ := h.received_message handed
        rw [all, whole]
        exact advances
      | reconnecting | unavailable text =>
        rw [received_snoc, if_pos handed, viewOf_snoc]
        exact .refl _
    · rw [received_snoc, if_neg handed]
      exact .refl _

end Tales

section Aside

variable {updates : List DaemonStreamUpdate} {others actions : List WorkspaceAction}

/-- The actions that only a message of the stream dispatches. -/
def isOfStream : WorkspaceAction → Bool
  | .applySnapshot _ | .applyEvent _ => true
  | _ => false

/-- The stream a window follows, and how far. -/
def place (state : WorkspaceState) : Option String × Nat := (state.streamId, state.lastSequence)

theorem place_aside (s : WorkspaceState) {a : WorkspaceAction} (aside : isOfStream a = false) :
    place (workspaceReducer s a) = place s := by
  cases a with
  | setOpeningStatus status =>
    unfold workspaceReducer
    cases s.openingOperation <;> rfl
  | applySnapshot snapshot => cases aside
  | applyEvent event => cases aside
  | _ => rfl

theorem place_reducer {s t : WorkspaceState} (a : WorkspaceAction) (same : place s = place t) :
    place (workspaceReducer s a) = place (workspaceReducer t a) := by
  cases a with
  | applySnapshot snapshot => rfl
  | applyEvent event => rfl
  | _ =>
    rw [place_aside s rfl, place_aside t rfl]
    exact same

theorem project_aside (s : WorkspaceState) {a : WorkspaceAction} (aside : isOfStream a = false)
    (silent : ∀ project, a ≠ .projectOpened project) :
    (workspaceReducer s a).project = s.project := by
  cases a with
  | setOpeningStatus status =>
    unfold workspaceReducer
    cases s.openingOperation <;> rfl
  | applySnapshot snapshot => cases aside
  | applyEvent event => cases aside
  | projectOpened project => exact absurd rfl (silent project)
  | _ => rfl

theorem project_reducer {s t : WorkspaceState} (a : WorkspaceAction)
    (same : s.project = t.project) :
    (workspaceReducer s a).project = (workspaceReducer t a).project := by
  cases a with
  | applySnapshot snapshot => rfl
  | projectOpened project => rfl
  | applyEvent event =>
    change (s.applyEvent event).project = (t.applyEvent event).project
    rw [applyEvent_project, applyEvent_project, same]
  | _ =>
    rw [project_aside s rfl, project_aside t rfl]
    · exact same
    · exact nofun
    · exact nofun

/-- Where a window is does not depend on what else is dispatched; the project it shows only on the
projects that replies bring. -/
theorem window_aside (merged : Merge (updates.flatMap updateActions) others actions)
    (aside : ∀ a ∈ others, isOfStream a = false) :
    place (dispatchAll initialState actions) = place (windowOf updates) ∧
      ((∀ project, .projectOpened project ∉ others) →
        (dispatchAll initialState actions).project = (windowOf updates).project) := by
  constructor
  · exact merged.foldl_observe (fun a _ s t => place_reducer a)
      (fun a among s => place_aside s (aside a among)) rfl
  · intro silent
    refine merged.foldl_observe (g := WorkspaceState.project)
      (fun a _ s t => project_reducer a) ?_ rfl
    intro a among s
    apply project_aside s (aside a among)
    rintro project rfl
    exact silent project among

end Aside

end Kesharon.EventStream

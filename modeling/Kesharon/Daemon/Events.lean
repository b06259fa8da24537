import Kesharon.Daemon.Operations
import Mathlib.Data.List.Range

namespace Kesharon.Daemon

open Framework Domain Protocol Application

/-- The events built in a run, in order. -/
def emitted (tr : List (Action × Output)) : List DaemonEvent := tr.flatMap fun p => p.2.events

@[simp] theorem emitted_append (xs ys : List (Action × Output)) :
    emitted (xs ++ ys) = emitted xs ++ emitted ys := by
  simp [emitted]

@[simp] theorem emitted_cons (a : Action) (o : Output) (tr : List (Action × Output)) :
    emitted ((a, o) :: tr) = o.events ++ emitted tr := by
  simp [emitted]

@[simp] theorem emitted_nil : emitted [] = [] := rfl

/-- Events of one stream with the numbers `first + 1`, `first + 2`, ... -/
structure Numbered (streamId : String) (first : Nat) (es : List DaemonEvent) : Prop where
  numbers : es.map (fun e => e.sequence.toNat) = List.range' (first + 1) es.length
  stream : ∀ e ∈ es, e.streamId = streamId
  version : ∀ e ∈ es, e.protocolVersion = PROTOCOL_VERSION

namespace Numbered

variable {streamId : String} {first : Nat} {es : List DaemonEvent}

theorem nil (streamId : String) (first : Nat) : Numbered streamId first [] :=
  ⟨rfl, by simp, by simp⟩

theorem snoc (h : Numbered streamId first es) {e : DaemonEvent}
    (sequence : e.sequence.toNat = first + es.length + 1) (stream : e.streamId = streamId)
    (version : e.protocolVersion = PROTOCOL_VERSION) : Numbered streamId first (es ++ [e]) := by
  refine ⟨?_, ?_, ?_⟩
  · simp only [List.map_append, List.map_cons, List.map_nil, List.length_append, List.length_cons,
      List.length_nil, h.numbers, sequence, List.range'_concat]
    simp
    omega
  · intro x hx
    rcases List.mem_append.mp hx with hx | hx
    · exact h.stream x hx
    · rw [List.mem_singleton.mp hx, stream]
  · intro x hx
    rcases List.mem_append.mp hx with hx | hx
    · exact h.version x hx
    · rw [List.mem_singleton.mp hx, version]

theorem bounds (h : Numbered streamId first es) {e : DaemonEvent} (he : e ∈ es) :
    first < e.sequence.toNat ∧ e.sequence.toNat ≤ first + es.length := by
  have hm : e.sequence.toNat ∈ es.map (fun e => e.sequence.toNat) := List.mem_map_of_mem he
  rw [h.numbers, List.mem_range'_1] at hm
  omega

theorem of_prefix (h : Numbered streamId first es) {xs : List DaemonEvent} (hx : xs <+: es) :
    Numbered streamId first xs := by
  obtain ⟨ys, rfl⟩ := hx
  refine ⟨?_, fun e he => h.stream e (List.mem_append_left _ he),
    fun e he => h.version e (List.mem_append_left _ he)⟩
  have numbers := h.numbers
  rw [List.map_append, List.length_append, ← List.range'_append_1] at numbers
  exact (List.append_inj numbers (by simp)).1

end Numbered

section Steps

variable {σ : Type} [StateRepository σ] {streamId : String} {w w' : World σ}

omit [StateRepository σ] in
theorem subscribe_frame (streamId : String) (w : World σ) :
    ∃ subscriber channels channelCount, (w.subscribe streamId).1 =
      { w with
        state := { w.state with subscriber := subscriber }
        channels := channels
        channelCount := channelCount } ∧ (w.subscribe streamId).2.events = [] := by
  unfold World.subscribe
  split_ifs
  · exact ⟨w.state.subscriber, w.channels, w.channelCount, rfl, rfl⟩
  · exact ⟨_, _, _, rfl, rfl⟩

omit [StateRepository σ] in
theorem begun_state (w : World σ) (request : ClientRequest) (path key : String)
    (event : DaemonEvent) :
    ∃ subscriber, (w.begun request path key event).state =
      { w.state with
        inFlight := w.state.inFlight.insert key (.openProject path)
        active := w.state.active.insert request.requestId ⟨w.flagCount⟩
        sequence := event.sequence
        subscriber := subscriber } := by
  obtain ⟨sub, chans, he⟩ := (w.register request.requestId path key).emit_frame event
  unfold World.begun
  rw [he]
  exact ⟨sub, rfl⟩

omit [StateRepository σ] in
theorem settled_state (w : World σ) (flag : FlagId) (call : OpenCall) (repo : Option σ)
    (project : Option ProjectSnapshot) (event : DaemonEvent) :
    ∃ subscriber, (w.settled flag call repo project event).state =
      { w.state with
        project := project
        active := w.state.active.erase call.request.requestId
        inFlight := w.state.inFlight.erase call.key
        sequence := event.sequence
        subscriber := subscriber } := by
  obtain ⟨sub, chans, he⟩ := ((w.remove flag call).setRepository repo).emit_frame event
  unfold World.settled
  rw [he]
  exact ⟨sub, rfl⟩

/-- A step builds no event and keeps the counter, or builds the next one and counts it. -/
theorem outcome_events {a : Action} {o : Output} (hs : Outcome streamId w a w' o) :
    (o.events = [] ∧ w'.state.sequence = w.state.sequence) ∨
      ∃ payload event, o.events = [event] ∧ World.IsNext streamId w payload event ∧
        w'.state.sequence = event.sequence := by
  cases hs with
  | answered request response => exact .inl ⟨rfl, rfl⟩
  | begun request path key event method keyed notCompleted notInFlight idle next =>
    obtain ⟨sub, hst⟩ := begun_state w request path key event
    exact .inr ⟨_, event, rfl, next, by rw [hst]⟩
  | cancelled request target key completion => exact .inl ⟨rfl, rfl⟩
  | moved _ flag call execution running moves => exact .inl ⟨rfl, rfl⟩
  | finished flag call result repo project payload event response saved completion running here
      settles next completes =>
    obtain ⟨sub, hst⟩ := settled_state w flag call repo project event
    refine .inr ⟨_, event, rfl, next, ?_⟩
    change (w.settled flag call repo project event).state.sequence = _
    rw [hst]
  | subscribed =>
    obtain ⟨sub, chans, count, hw, ho⟩ := subscribe_frame streamId w
    exact .inl ⟨ho, by rw [hw]⟩
  | received ch r c known alive recv => exact .inl ⟨rfl, rfl⟩
  | hungUp ch known => exact .inl ⟨rfl, rfl⟩

/-- From a healthy state on, the events of a run carry this stream's id and the numbers that
follow the counter, one by one. -/
theorem run_numbered {s t : World σ} {tr : List (Action × Output)}
    (run : (session σ streamId).Run healthyStep s tr t) (start : Healthy s) :
    Numbered streamId s.state.sequence.toNat (emitted tr) ∧
      t.state.sequence.toNat = s.state.sequence.toNat + (emitted tr).length := by
  have both : Healthy t ∧ Numbered streamId s.state.sequence.toNat (emitted tr) ∧
      t.state.sequence.toNat = s.state.sequence.toNat + (emitted tr).length := by
    apply run.history (P := fun tr t => Healthy t ∧
      Numbered streamId s.state.sequence.toNat (emitted tr) ∧
      t.state.sequence.toNat = s.state.sequence.toNat + (emitted tr).length)
    · exact ⟨start, .nil _ _, rfl⟩
    · intro tr t a u o h hok hs
      obtain ⟨hh, hnum, hcount⟩ := h
      rcases outcome_events (step_outcome hh hok hs) with ⟨ho, hq⟩ | ⟨payload, e, ho, hn, hq⟩
      · simp only [emitted_append, emitted_cons, emitted_nil, ho, List.append_nil]
        exact ⟨hok, hnum, by rw [hq, hcount]⟩
      · simp only [emitted_append, emitted_cons, emitted_nil, ho, List.append_nil]
        have hnext : e.sequence.toNat = s.state.sequence.toNat + (emitted tr).length + 1 := by
          rw [hn.sequence, hcount]
        refine ⟨hok, hnum.snoc hnext hn.stream hn.version, ?_⟩
        rw [hq, hnext, List.length_append]
        rfl
  exact both.2

theorem run_sequence_le {s t : World σ} {tr : List (Action × Output)}
    (run : (session σ streamId).Run healthyStep s tr t) (start : Healthy s) {e : DaemonEvent}
    (he : e ∈ emitted tr) :
    s.state.sequence.toNat < e.sequence.toNat ∧ e.sequence.toNat ≤ t.state.sequence.toNat := by
  obtain ⟨hnum, hcount⟩ := run_numbered run start
  have := hnum.bounds he
  omega

/-- Numbers cut the events of a run where the states between them stand. -/
theorem emitted_between {s t u v : World σ} {xs ys zs : List (Action × Output)}
    (before : (session σ streamId).Run healthyStep s xs t)
    (between : (session σ streamId).Run healthyStep t ys u)
    (after : (session σ streamId).Run healthyStep u zs v) (start : Healthy s) :
    (emitted (xs ++ ys ++ zs)).filter
        (fun e => t.state.sequence < e.sequence ∧ e.sequence ≤ u.state.sequence) =
      emitted ys := by
  have ht := run_healthy before start
  have hu := run_healthy between ht
  have early : (emitted xs).filter
      (fun e => t.state.sequence < e.sequence ∧ e.sequence ≤ u.state.sequence) = [] := by
    rw [List.filter_eq_nil_iff]
    intro e he
    have := run_sequence_le before start he
    simp only [decide_eq_true_eq, UInt64.lt_iff_toNat_lt]
    omega
  have late : (emitted zs).filter
      (fun e => t.state.sequence < e.sequence ∧ e.sequence ≤ u.state.sequence) = [] := by
    rw [List.filter_eq_nil_iff]
    intro e he
    have := run_sequence_le after hu he
    simp only [decide_eq_true_eq, UInt64.le_iff_toNat_le]
    omega
  have here : (emitted ys).filter
      (fun e => t.state.sequence < e.sequence ∧ e.sequence ≤ u.state.sequence) = emitted ys := by
    rw [List.filter_eq_self]
    intro e he
    have := run_sequence_le between ht he
    simp only [decide_eq_true_eq, UInt64.lt_iff_toNat_lt, UInt64.le_iff_toNat_le]
    exact this
  rw [emitted_append, emitted_append, List.filter_append, List.filter_append, early, here, late]
  simp

theorem emitted_since {s t u : World σ} {xs ys : List (Action × Output)}
    (before : (session σ streamId).Run healthyStep s xs t)
    (since : (session σ streamId).Run healthyStep t ys u) (start : Healthy s) :
    (emitted (xs ++ ys)).filter (fun e => t.state.sequence < e.sequence) = emitted ys := by
  have hlast (e : DaemonEvent) (he : e ∈ emitted (xs ++ ys)) :
      e.sequence ≤ u.state.sequence := by
    rw [UInt64.le_iff_toNat_le]
    exact (run_sequence_le (before.append since) start he).2
  have cut := emitted_between before since (.nil u) start
  rw [List.append_nil] at cut
  rw [← cut]
  apply List.filter_congr
  intro e he
  simp [hlast e he]

end Steps

end Kesharon.Daemon

import Kesharon.Daemon.Visible
import Kesharon.EventStream.Supersedence

namespace Kesharon.EventStream

open Framework Application Daemon Host Protocol

/-- How many updates a cancelled worker may still send. -/
def late : Location → Nat
  | .readingClient | .reconnecting | .announcing _ | .forwarding _ | .recheckingClient
  | .checkingHealth | .lost => 1
  | _ => 0

theorem late_le (location : Location) : late location ≤ 1 := by
  cases location <;> simp [late]

theorem late_disconnect (w : StreamWorker) : late w.disconnect.location ≤ 1 :=
  late_le w.disconnect.location

/-- A cancelled worker that loads its flag has no more to send than before. -/
theorem late_check {w w' : StreamWorker} (h : w.check = some w') (cancelled : w.cancelled = true) :
    late w'.location = 0 := by
  unfold StreamWorker.check at h
  cases here : w.location with
  | connectCheck | sleepCheck | subscribeCheck | loopCheck | readCheck =>
    simp only [here, cancelled, if_true, Option.some.injEq] at h
    rw [← h]
    rfl
  | subscribed result | received result =>
    simp only [here, cancelled, if_true, Option.some.injEq] at h
    rw [← h]
    rfl
  | _ => simp [here] at h

theorem late_send {w w' : StreamWorker} {delivered : Bool} {u : DaemonStreamUpdate}
    (h : w.send delivered = some (w', u)) : late w.location = 1 ∧ late w'.location = 0 := by
  unfold StreamWorker.send at h
  cases here : w.location with
  | reconnecting | announcing | forwarding | lost =>
    simp only [here, Option.some.injEq, Prod.mk.injEq] at h
    obtain ⟨rfl, _⟩ := h
    cases delivered <;> exact ⟨rfl, rfl⟩
  | _ => simp [here] at h

/-- What a cancelled worker sends, it takes from what it may still send. -/
theorem late_step {w w' : StreamWorker} {a : WorkerAction} {o : WorkerOutput}
    (h : w.step a = some (w', o)) (cancelled : w.cancelled = true) :
    o.sent.toList.length + late w'.location ≤ late w.location := by
  cases StreamWorker.step_moves h with
  | cancelled => simp
  | checked next =>
    have none := late_check next cancelled
    simp [none]
  | sent delivered next =>
    obtain ⟨one, none⟩ := late_send next
    simp [one, none]
  | clientFound here =>
    simp [late, here, StreamWorker.goTo]
  | clientMissing here =>
    have one := late_disconnect w
    simpa [late, here] using one
  | clientRechecked here present =>
    cases present <;> simp [late, here, StreamWorker.goTo]
  | healthReturned here ok =>
    cases ok <;> simp [late, here, StreamWorker.goTo]
  | subscribeReturned here | woke here | readReturned here =>
    simp [late, here, StreamWorker.goTo]

/-- The worker has the event, and has not forwarded it. -/
def Holds (w : StreamWorker) (event : DaemonEvent) : Prop :=
  w.location = .received (.ok (.event event)) ∨ w.location = .forwarding (.event event)

theorem expectAfter_holds {w : StreamWorker} {n : UInt64} {location : Location} {e : DaemonEvent}
    (h : Holds (w.expectAfter n location) e) :
    location = .received (.ok (.event e)) ∨ location = .forwarding (.event e) := by
  unfold StreamWorker.expectAfter at h
  split at h
  · rcases h with h | h <;> cases h
  · exact h

/-- Where a worker has an event from. -/
theorem holds_step {w w' : StreamWorker} {a : WorkerAction} {o : WorkerOutput} {e : DaemonEvent}
    (h : w.step a = some (w', o)) (holds : Holds w' e) :
    a = .readReturns (.ok (.event e)) ∨ Holds w e := by
  have nowhere (v : StreamWorker) : ¬ Holds v.disconnect e := by
    unfold StreamWorker.disconnect Holds
    split_ifs <;> simp [StreamWorker.goTo]
  cases StreamWorker.step_moves h with
  | cancelled => exact .inr holds
  | clientMissing here => exact absurd holds (nowhere w)
  | clientFound here | subscribeReturned here | woke here =>
    rcases holds with holds | holds <;> cases holds
  | clientRechecked here flag | healthReturned here flag =>
    cases flag <;> rcases holds with holds | holds <;> cases holds
  | readReturned here result =>
    rcases holds with holds | holds
    · cases holds
      exact .inl rfl
    · cases holds
  | sent delivered next =>
    unfold StreamWorker.send at next
    cases here : w.location with
    | reconnecting | announcing | forwarding | lost =>
      simp only [here, Option.some.injEq, Prod.mk.injEq] at next
      obtain ⟨rfl, _⟩ := next
      cases delivered <;> rcases holds with holds | holds <;> cases holds
    | _ => simp [here] at next
  | checked next =>
    unfold StreamWorker.check at next
    cases here : w.location with
    | connectCheck | sleepCheck | subscribeCheck | loopCheck | readCheck =>
      simp only [here, Option.some.injEq] at next
      rw [← next] at holds
      cases flag : w.cancelled <;> simp [Holds, StreamWorker.goTo, flag] at holds
    | subscribed result =>
      simp only [here] at next
      split_ifs at next
      · rw [← Option.some.inj next] at holds
        rcases holds with holds | holds <;> cases holds
      · cases result with
        | ok subscription =>
          rw [← Option.some.inj next] at holds
          rcases expectAfter_holds holds with same | same <;> cases same
        | error error =>
          rw [← Option.some.inj next] at holds
          exact absurd holds (nowhere w)
    | received result =>
      simp only [here] at next
      split_ifs at next
      · rw [← Option.some.inj next] at holds
        rcases holds with holds | holds <;> cases holds
      · rw [← Option.some.inj next] at holds
        unfold StreamWorker.handle at holds
        split at holds
        · split_ifs at holds
          · rcases holds with holds | holds <;> cases holds
          · rcases expectAfter_holds holds with same | same
            · cases same
            · cases same
              exact .inr (.inl here)
        · rcases expectAfter_holds holds with same | same <;> cases same
        · split_ifs at holds <;> rcases holds with holds | holds <;> cases holds
    | _ => simp [here] at next

/-- A cancelled worker takes up nothing more to forward. -/
theorem forwarding_step {w w' : StreamWorker} {a : WorkerAction} {o : WorkerOutput}
    (h : w.step a = some (w', o)) (own : a ≠ .cancel) (cancelled : w.cancelled = true)
    (message : StreamMessage) : w'.location ≠ .forwarding message := by
  intro forwards
  have one : late w'.location = 1 := by
    rw [forwards]
    rfl
  cases StreamWorker.step_moves h with
  | cancelled => exact own rfl
  | checked next =>
    have none := late_check next cancelled
    omega
  | sent delivered next =>
    have none := (late_send next).2
    omega
  | clientMissing here =>
    unfold StreamWorker.disconnect at forwards
    split_ifs at forwards <;> cases forwards
  | clientFound here | subscribeReturned here | woke here | readReturned here => cases forwards
  | clientRechecked here flag | healthReturned here flag => cases flag <;> cases forwards

theorem sent_event {w w' : StreamWorker} {a : WorkerAction} {o : WorkerOutput} {e : DaemonEvent}
    {delivered : Bool} (h : w.step a = some (w', o))
    (sent : o.sent = some (.message (.event e), delivered)) : w.location = .forwarding (.event e) := by
  cases StreamWorker.step_moves h with
  | sent took next =>
    obtain ⟨update, _⟩ := Prod.mk.inj (Option.some.inj sent)
    unfold StreamWorker.send at next
    cases here : w.location with
    | reconnecting | announcing | forwarding | lost =>
      simp only [here, Option.some.injEq, Prod.mk.injEq] at next
      rw [← next.2] at update
      cases update
      try rfl
    | _ => simp [here] at next
  | _ => cases sent

/-- A desktop, and every event that its daemon has emitted. -/
structure Broadcast (σ : Type) where
  desktop : Desktop σ
  events : List DaemonEvent

namespace Broadcast

variable {σ : Type}

def new (session : World σ) : Broadcast σ := ⟨.new session,[]⟩

/-- A worker reads what the daemon has emitted. -/
def carries (s : Broadcast σ) : DesktopAction → Bool
  | .worker _ (.readReturns (.ok (.event event))) => event ∈ s.events
  | _ => true

def step [StateRepository σ] (streamId : String) (s : Broadcast σ) (a : DesktopAction) :
    Option (Broadcast σ × DesktopOutput) :=
  if s.carries a then
    (s.desktop.step streamId a).map fun r => (⟨r.1,s.events ++ r.2.session.events⟩, r.2)
  else none

end Broadcast

def broadcast (σ : Type) [StateRepository σ] (streamId : String) :
    Machine (Broadcast σ) DesktopAction DesktopOutput :=
  ⟨Broadcast.step streamId⟩

/-- The updates that a worker has sent to its channel. -/
def sentBy (i : Nat) : DesktopAction × DesktopOutput → List DaemonStreamUpdate
  | (.worker j _, o) => if j = i then (o.worker.sent.map Prod.fst).toList else []
  | _ => []

def updates (i : Nat) (tr : List (DesktopAction × DesktopOutput)) : List DaemonStreamUpdate :=
  tr.flatMap (sentBy i)

/-- How often a worker has sent a subscribe request. -/
def attempts (i : Nat) (tr : List (DesktopAction × DesktopOutput)) : Nat :=
  tr.countP fun p => match p.1 with
    | .connect j => j = i
    | _ => false

/-- The events that the daemon has emitted. -/
def announced (tr : List (DesktopAction × DesktopOutput)) : List DaemonEvent :=
  tr.flatMap fun p => p.2.session.events

/-- What a step leaves of a worker. -/
inductive Follows (i : Nat) (q : Subscriber) :
    DesktopAction → DesktopOutput → Subscriber → Prop where
  | rests {a : DesktopAction} {o : DesktopOutput} (silent : sentBy i (a, o) = [])
      (idle : a ≠ .connect i) : Follows i q a o q
  | cancelled {o : DesktopOutput} : Follows i q .executeSubscribe o q.cancel
  | works {a : WorkerAction} {w : StreamWorker} {o : DesktopOutput} (own : a ≠ .cancel)
      (step : q.worker.step a = some (w, o.worker)) : Follows i q (.worker i a) o (q.moved w)
  | connects {o : DesktopOutput} (k : Nat) (sends : q.Sends) :
      Follows i q (.connect i) o { q with request := some k }

section Steps

variable {σ : Type} [StateRepository σ] {streamId : String} {s s' : Desktop σ}
variable {a : DesktopAction} {o : DesktopOutput} {i : Nat} {q : Subscriber}

theorem desktop_follows (h : s.step streamId a = some (s', o)) (here : s.workers[i]? = some q) :
    ∃ q', s'.workers[i]? = some q' ∧ Follows i q a o q' := by
  have known : i < s.workers.length := (List.getElem?_eq_some_iff.mp here).1
  cases a with
  | executeSubscribe =>
    obtain ⟨rfl, rfl⟩ := Prod.mk.inj (Option.some.inj h)
    unfold Desktop.executeSubscribe
    cases s.activeSubscriptionCancel with
    | none =>
      refine ⟨q, ?_, .rests rfl (by simp)⟩
      simp only [List.getElem?_append_left known, here]
    | some previous =>
      have kept : i < (s.workers.modify previous Subscriber.cancel).length := by simpa using known
      dsimp only
      rw [List.getElem?_append_left kept]
      by_cases same : previous = i
      · exact ⟨q.cancel, by simp [same, here], .cancelled⟩
      · exact ⟨q, by simp [same, here], .rests rfl (by simp)⟩
  | worker j action =>
    change s.workerStep streamId j action = _ at h
    unfold Desktop.workerStep at h
    cases found : s.workers[j]? with
    | none => simp [found] at h
    | some p =>
      simp only [found] at h
      split_ifs at h with permitted
      simp only [Option.map_eq_some_iff, Prod.exists, Prod.mk.injEq] at h
      obtain ⟨w, out, step, rfl, rfl⟩ := h
      by_cases same : j = i
      · subst same
        obtain rfl := Option.some.inj (here.symm.trans found)
        have own : action ≠ .cancel := by
          rintro rfl
          cases permitted
        exact ⟨q.moved w, List.getElem?_set_self known, .works own step⟩
      · refine ⟨q, (List.getElem?_set_ne same).trans here, .rests ?_ (by simp)⟩
        simp [sentBy, same]
  | connect j =>
    change s.connect j = _ at h
    unfold Desktop.connect at h
    cases found : s.workers[j]? with
    | none => simp [found] at h
    | some p =>
      simp only [found] at h
      split_ifs at h with sends
      obtain ⟨rfl, rfl⟩ := Prod.mk.inj (Option.some.inj h)
      by_cases same : j = i
      · subst same
        obtain rfl := Option.some.inj (here.symm.trans found)
        exact ⟨_, List.getElem?_set_self known, .connects _ sends⟩
      · exact ⟨q, (List.getElem?_set_ne same).trans here, .rests rfl (by simp [same])⟩
  | handle k =>
    have moves := Desktop.step_moves h
    refine ⟨q, ?_, .rests rfl (by simp)⟩
    cases moves <;> exact here
  | abandon k =>
    have moves := Desktop.step_moves h
    refine ⟨q, ?_, .rests rfl (by simp)⟩
    cases moves
    exact here
  | session action =>
    have moves := Desktop.step_moves h
    refine ⟨q, ?_, .rests rfl (by simp)⟩
    cases moves with
    | refused _ ending => simp at ending
    | session => exact here

/-- A worker of the next state that is no new one was there before. -/
theorem desktop_worker {j : Nat} {p : Subscriber} (h : s.step streamId a = some (s', o))
    (here : s'.workers[j]? = some p) : p = .new ∨ ∃ q, s.workers[j]? = some q ∧ Follows j q a o p := by
  by_cases known : j < s.workers.length
  · obtain ⟨q', there, follows⟩ := desktop_follows h (List.getElem?_eq_getElem known)
    obtain rfl := Option.some.inj (here.symm.trans there)
    exact .inr ⟨_, List.getElem?_eq_getElem known, follows⟩
  · have after : j < s'.workers.length := (List.getElem?_eq_some_iff.mp here).1
    by_cases other : a = .executeSubscribe
    · subst other
      obtain ⟨rfl, rfl⟩ := Prod.mk.inj (Option.some.inj h)
      rcases Desktop.executeSubscribe_worker here with ⟨_, new⟩ | ⟨q, there, _⟩
      · exact .inl new
      · exact absurd (List.getElem?_eq_some_iff.mp there).1 known
    · have size := Desktop.moves_length (Desktop.step_moves h) other
      omega

/-- Events have numbers above the counter before, and the counter is the last of them. -/
theorem desktop_counts (h : s.step streamId a = some (s', o)) :
    s.session.state.sequence.toNat ≤ s'.session.state.sequence.toNat ∧
      ∀ e ∈ o.session.events, s.session.state.sequence.toNat < e.sequence.toNat ∧
        e.sequence.toNat ≤ s'.session.state.sequence.toNat := by
  have quiet {w : World σ} {out : Output} (counter : w.state.sequence = s.session.state.sequence)
      (none : out.events = []) :
      s.session.state.sequence.toNat ≤ w.state.sequence.toNat ∧
        ∀ e ∈ out.events, s.session.state.sequence.toNat < e.sequence.toNat ∧
          e.sequence.toNat ≤ w.state.sequence.toNat := by
    rw [counter, none]
    simp
  cases a with
  | executeSubscribe =>
    obtain ⟨rfl, rfl⟩ := Prod.mk.inj (Option.some.inj h)
    exact quiet rfl rfl
  | worker j action =>
    change s.workerStep streamId j action = _ at h
    unfold Desktop.workerStep at h
    split at h
    · cases h
    · split_ifs at h
      simp only [Option.map_eq_some_iff, Prod.exists, Prod.mk.injEq] at h
      obtain ⟨w, out, step, rfl, rfl⟩ := h
      exact quiet rfl rfl
  | connect j =>
    change s.connect j = _ at h
    unfold Desktop.connect at h
    split at h
    · cases h
    · split_ifs at h
      obtain ⟨rfl, rfl⟩ := Prod.mk.inj (Option.some.inj h)
      exact quiet rfl rfl
  | handle k =>
    change s.handle streamId k = _ at h
    unfold Desktop.handle at h
    split at h
    · obtain ⟨rfl, rfl⟩ := Prod.mk.inj (Option.some.inj h)
      obtain ⟨subscriber, channels, count, same, none⟩ := subscribe_frame streamId s.session
      refine quiet ?_ none
      change (s.session.subscribe streamId).1.state.sequence = _
      rw [same]
    · cases h
  | abandon k =>
    simp only [Desktop.step] at h
    split at h
    · obtain ⟨rfl, rfl⟩ := Prod.mk.inj (Option.some.inj h)
      exact quiet rfl rfl
    · cases h
  | session action =>
    by_cases other : action = .subscribe
    · subst other
      cases h
    · have taken : (s.session.step streamId action).map
          (fun r => (({ s with session := r.1 } : Desktop σ), ({ session := r.2 } : DesktopOutput))) =
          some (s', o) := by
        cases action <;> first | exact h | exact absurd rfl other
      simp only [Option.map_eq_some_iff, Prod.exists, Prod.mk.injEq] at taken
      obtain ⟨w, out, step, rfl, rfl⟩ := taken
      have visible := World.step_visible step
      dsimp only
      generalize he : out.events = events at visible
      cases visible with
      | quiet project active counter => exact he ▸ quiet counter he
      | started sequence requestId flag project active next counter =>
        have one := (checkedSucc_eq_some.mp next).2
        simp only [List.mem_singleton, forall_eq, counter]
        omega
      | ended sequence payload terminal project active next counter =>
        have one := (checkedSucc_eq_some.mp next).2
        simp only [List.mem_singleton, forall_eq, counter]
        omega

end Steps

/-- What a cancelled worker has done since it was `p`. -/
structure Silent (i : Nat) (p q : Subscriber) (tr : List (DesktopAction × DesktopOutput)) :
    Prop where
  cancelled : q.worker.cancelled = true
  sent : (updates i tr).length + late q.worker.location ≤ late p.worker.location
  attempted : attempts i tr + (if q.Sends then 1 else 0) ≤ if p.Sends then 1 else 0
  forwarding : ∀ m, q.worker.location = .forwarding m → p.worker.location = .forwarding m
  forwarded : ∀ e, .message (.event e) ∈ updates i tr →
    p.worker.location = .forwarding (.event e)

section Runs

variable {σ : Type} [StateRepository σ] {streamId : String} {i : Nat} {p q q' : Subscriber}
variable {tr : List (DesktopAction × DesktopOutput)} {a : DesktopAction} {o : DesktopOutput}

theorem updates_append (i : Nat) (xs ys : List (DesktopAction × DesktopOutput)) :
    updates i (xs ++ ys) = updates i xs ++ updates i ys := by
  simp [updates]

theorem updates_singleton (i : Nat) (x : DesktopAction × DesktopOutput) :
    updates i [x] = sentBy i x := by
  simp [updates]

theorem attempts_append (i : Nat) (xs ys : List (DesktopAction × DesktopOutput)) :
    attempts i (xs ++ ys) = attempts i xs + attempts i ys :=
  List.countP_append

theorem attempts_other (other : a ≠ .connect i) : attempts i [(a, o)] = 0 := by
  cases a with
  | connect j =>
    have different : j ≠ i := by
      rintro rfl
      exact other rfl
    simp [attempts, different]
  | _ => rfl

theorem Silent.follows (h : Silent i p q tr) (follows : Follows i q a o q') :
    Silent i p q' (tr ++ [(a, o)]) := by
  cases follows with
  | rests silent idle =>
    have sent : updates i (tr ++ [(a, o)]) = updates i tr := by
      rw [updates_append, updates_singleton, silent, List.append_nil]
    have tried : attempts i (tr ++ [(a, o)]) = attempts i tr := by
      rw [attempts_append, attempts_other idle, Nat.add_zero]
    refine ⟨h.cancelled, ?_, ?_, h.forwarding, ?_⟩
    · rw [sent]
      exact h.sent
    · rw [tried]
      exact h.attempted
    · rw [sent]
      exact h.forwarded
  | cancelled =>
    have sent : updates i (tr ++ [(.executeSubscribe, o)]) = updates i tr := by
      rw [updates_append, updates_singleton]
      exact List.append_nil _
    refine ⟨rfl, ?_, ?_, h.forwarding, ?_⟩
    · rw [sent]
      exact h.sent
    · rw [attempts_append]
      exact h.attempted
    · rw [sent]
      exact h.forwarded
  | @works action w o own step =>
    have sent : updates i (tr ++ [(.worker i action, o)]) =
        updates i tr ++ (o.worker.sent.map Prod.fst).toList := by
      rw [updates_append, updates_singleton, sentBy, if_pos rfl]
    have tried : attempts i (tr ++ [(.worker i action, o)]) = attempts i tr := by
      rw [attempts_append, attempts_other (by simp), Nat.add_zero]
    have budget := late_step step h.cancelled
    refine ⟨(worker_cancelled step own).trans h.cancelled, ?_, ?_, ?_, ?_⟩
    · have before := h.sent
      have length : (o.worker.sent.map Prod.fst).toList.length = o.worker.sent.toList.length := by
        cases o.worker.sent <;> rfl
      rw [sent, List.length_append, length]
      change _ + late w.location ≤ _
      omega
    · have before := h.attempted
      have sends : ¬ (q.moved w).Sends := by
        rintro ⟨subscribing, _⟩
        have clear := (worker_subscribing step own subscribing).2
        rw [h.cancelled] at clear
        cases clear
      rw [tried, if_neg sends]
      omega
    · intro m forwards
      exact absurd forwards (forwarding_step step own h.cancelled m)
    · intro e member
      rw [sent] at member
      rcases List.mem_append.mp member with before | now
      · exact h.forwarded e before
      · obtain ⟨r, here, update⟩ : ∃ r, o.worker.sent = some r ∧ r.1 = .message (.event e) := by
          simpa [-Prod.exists] using now
        obtain ⟨_, delivered⟩ := r
        subst update
        exact h.forwarding _ (sent_event step here)
  | connects k sends =>
    have sent : updates i (tr ++ [(.connect i, o)]) = updates i tr := by
      rw [updates_append, updates_singleton]
      exact List.append_nil _
    have tried : attempts i (tr ++ [(.connect i, o)]) = attempts i tr + 1 := by
      rw [attempts_append]
      simp [attempts]
    refine ⟨h.cancelled, ?_, ?_, h.forwarding, ?_⟩
    · rw [sent]
      exact h.sent
    · have before := h.attempted
      have done : ¬ ({ q with request := some k } : Subscriber).Sends := by
        rintro ⟨_, none⟩
        cases none
      rw [if_pos sends] at before
      rw [tried, if_neg done]
      omega
    · rw [sent]
      exact h.forwarded

/-- What every run keeps of a desktop and its daemon's events. -/
structure Heard (s : Broadcast σ) : Prop where
  ordered : s.desktop.Ordered
  numbered : ∀ e ∈ s.events, e.sequence.toNat ≤ s.desktop.session.state.sequence.toNat
  held : ∀ (j : Nat) p, s.desktop.workers[j]? = some p → ∀ e, Holds p.worker e → e ∈ s.events

theorem broadcast_step {s s' : Broadcast σ} (h : (broadcast σ streamId).step s a = some (s', o)) :
    s.carries a = true ∧ s.desktop.step streamId a = some (s'.desktop, o) ∧
      s'.events = s.events ++ o.session.events := by
  change s.step streamId a = some (s', o) at h
  unfold Broadcast.step at h
  split_ifs at h with carried
  simp only [Option.map_eq_some_iff, Prod.exists, Prod.mk.injEq] at h
  obtain ⟨desktop, out, step, rfl, rfl⟩ := h
  exact ⟨carried, step, rfl⟩

omit [StateRepository σ] in
theorem follows_holds {s : Broadcast σ} {j : Nat} {e : DaemonEvent} (follows : Follows j q a o p)
    (carried : s.carries a = true) (holds : Holds p.worker e) : Holds q.worker e ∨ e ∈ s.events := by
  cases follows with
  | rests silent idle => exact .inl holds
  | cancelled => exact .inl holds
  | connects k sends => exact .inl holds
  | works own step =>
    rcases holds_step step holds with rfl | before
    · exact .inr (of_decide_eq_true carried)
    · exact .inl before

theorem Heard.step {s s' : Broadcast σ} (h : Heard s)
    (step : (broadcast σ streamId).step s a = some (s', o)) : Heard s' := by
  obtain ⟨carried, moves, events⟩ := broadcast_step step
  obtain ⟨grows, counted⟩ := desktop_counts moves
  refine ⟨h.ordered.step (Desktop.step_moves moves), ?_, ?_⟩
  · intro e member
    rw [events] at member
    rcases List.mem_append.mp member with before | now
    · exact Nat.le_trans (h.numbered e before) grows
    · exact (counted e now).2
  · intro j p here e holds
    rw [events]
    apply List.mem_append_left
    rcases desktop_worker moves here with rfl | ⟨q, there, follows⟩
    · rcases holds with holds | holds <;> cases holds
    · rcases follows_holds follows carried holds with before | known
      · exact h.held j q there e before
      · exact known

theorem run_heard {w : World σ} {s : Broadcast σ}
    (run : (broadcast σ streamId).Run Machine.anyStep (.new w) tr s) :
    Heard s ∧ s.events = announced tr := by
  apply run.history (P := fun tr s => Heard s ∧ s.events = announced tr)
  · refine ⟨⟨⟨?_, ?_, ?_⟩, ?_, ?_⟩, rfl⟩ <;> simp [Broadcast.new, Desktop.new]
  · intro tr t a u o h _ step
    refine ⟨h.1.step step, ?_⟩
    rw [(broadcast_step step).2.2, h.2]
    simp [announced]

/-- From the moment its flag is set, a worker is silent. -/
theorem run_silent {s t : Broadcast σ} (run : (broadcast σ streamId).Run Machine.anyStep s tr t)
    (here : s.desktop.workers[i]? = some p) (flagged : p.worker.cancelled = true) :
    (∃ q, t.desktop.workers[i]? = some q ∧ Silent i p q tr) ∧
      s.desktop.session.state.sequence.toNat ≤ t.desktop.session.state.sequence.toNat ∧
      ∀ e ∈ announced tr, s.desktop.session.state.sequence.toNat < e.sequence.toNat := by
  apply run.history (P := fun tr t => (∃ q, t.desktop.workers[i]? = some q ∧ Silent i p q tr) ∧
    s.desktop.session.state.sequence.toNat ≤ t.desktop.session.state.sequence.toNat ∧
    ∀ e ∈ announced tr, s.desktop.session.state.sequence.toNat < e.sequence.toNat)
  · refine ⟨⟨p, here, flagged, ?_, ?_, ?_, ?_⟩, Nat.le_refl _, ?_⟩
    · simp [updates]
    · simp [attempts]
    · intro m forwards
      exact forwards
    · simp [updates]
    · simp [announced]
  · intro tr t a u o h _ step
    obtain ⟨⟨q, there, silent⟩, grown, later⟩ := h
    obtain ⟨_, moves, _⟩ := broadcast_step step
    obtain ⟨q', now, follows⟩ := desktop_follows moves there
    obtain ⟨grows, counted⟩ := desktop_counts moves
    refine ⟨⟨q', now, silent.follows follows⟩, by omega, ?_⟩
    intro e member
    simp only [announced, List.flatMap_append, List.mem_append, List.flatMap_singleton] at member
    rcases member with before | new
    · exact later e before
    · have above := (counted e new).1
      omega

/-- At most the worker that was registered last has a clear flag. From the moment its flag is set,
a worker sends at most one more update and starts no subscribe but one that was past its check,
and the events it forwards have been emitted before. -/
theorem supersedence_silences {w : World σ} {s : Broadcast σ}
    (run : (broadcast σ streamId).Run Machine.anyStep (.new w) tr s) :
    (∀ (j : Nat) q, s.desktop.workers[j]? = some q → q.worker.cancelled = false →
      j + 1 = s.desktop.workers.length ∧ s.desktop.activeSubscriptionCancel = some j) ∧
    ∀ (i : Nat) p, s.desktop.workers[i]? = some p → p.worker.cancelled = true →
      ∀ tr' t, (broadcast σ streamId).Run Machine.anyStep s tr' t →
        (updates i tr').length ≤ 1 ∧ (attempts i tr' ≤ if p.Sends then 1 else 0) ∧
        ∀ e, .message (.event e) ∈ updates i tr' → e ∈ announced tr ∧ e ∉ announced tr' := by
  obtain ⟨heard, known⟩ := run_heard run
  constructor
  · intro j q here clear
    have size := (List.getElem?_eq_some_iff.mp here).1
    have last : s.desktop.workers.length = j + 1 := by
      by_contra superseded
      have flagged := heard.ordered.cancelled j q here (by omega)
      rw [clear] at flagged
      cases flagged
    exact ⟨last.symm, heard.ordered.registry j last⟩
  · intro i p here flagged tr' t after
    obtain ⟨⟨q, _, silent⟩, _, later⟩ := run_silent after here flagged
    have one := late_le p.worker.location
    have sent := silent.sent
    have attempted := silent.attempted
    refine ⟨by omega, by omega, ?_⟩
    intro e forwarded
    have member := heard.held i p here e (.inr (silent.forwarded e forwarded))
    refine ⟨known ▸ member, ?_⟩
    intro again
    have above := later e again
    have below := heard.numbered e member
    omega

end Runs

/-- A worker that is about to forward the start of an open when another subscribes. -/
def takenOver : List DesktopAction := [
  .executeSubscribe,
  .worker 0 .check,
  .worker 0 (.client true),
  .worker 0 .check,
  .connect 0,
  .handle 0,
  .worker 0 (.subscribeReturns (.ok ⟨"s",⟨"s",0,none,[]⟩⟩)),
  .worker 0 .check,
  .worker 0 (.send true),
  .worker 0 .check,
  .worker 0 .check,
  .session (.dispatch ⟨PROTOCOL_VERSION,"r",.openProject "/p",some "k"⟩),
  .worker 0 (.readReturns (.ok (.event
    ⟨PROTOCOL_VERSION,"s",1,.operationStarted "r" .openProject⟩))),
  .worker 0 .check,
  .executeSubscribe]

theorem supersedence_silences_forwarding :
    ∃ (tr tr' : List (DesktopAction × DesktopOutput)) (s t : Broadcast Empty),
      (broadcast Empty "s").Run Machine.anyStep (.new .new) tr s ∧
      (broadcast Empty "s").Run Machine.anyStep s tr' t ∧
      (updates 0 tr').length = 1 ∧ (updates 0 tr').length ≤ 1 := by
  have runs : ((broadcast Empty "s").exec Machine.anyStep (.new .new) takenOver).isSome := by
    decide +kernel
  have run := Machine.run_of_exec_isSome _ _ _ _ runs
  have step : (broadcast Empty "s").step (((broadcast Empty "s").exec Machine.anyStep (.new .new)
    takenOver).get runs).2 (.worker 0 (.send true)) = some (_, _) := rfl
  have after : (broadcast Empty "s").Run Machine.anyStep _ _ _ := .one trivial step
  have silences := (supersedence_silences run).2 0 _ rfl rfl _ _ after
  exact ⟨_, _, _, _, run, after, rfl, silences.1⟩

end Kesharon.EventStream

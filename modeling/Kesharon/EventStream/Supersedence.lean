import Kesharon.EventStream.Desktop
import Kesharon.Daemon.Subscriber

namespace Kesharon.EventStream

open Framework Application Daemon Host Protocol

/-- Past the last load of its cancel flag, and about to send its request. -/
def Subscriber.Sends (p : Subscriber) : Prop :=
  p.worker.location = .subscribing ∧ p.request = none

instance (p : Subscriber) : Decidable p.Sends :=
  inferInstanceAs (Decidable (_ ∧ _))

/-- No step of a worker sets its flag. -/
theorem worker_cancelled {w w' : StreamWorker} {a : WorkerAction} {o : WorkerOutput}
    (h : w.step a = some (w', o)) (own : a ≠ .cancel) : w'.cancelled = w.cancelled := by
  have expects (v : StreamWorker) (n : UInt64) (l : Location) :
      (v.expectAfter n l).cancelled = v.cancelled := by
    unfold StreamWorker.expectAfter
    split <;> rfl
  have disconnects (v : StreamWorker) : v.disconnect.cancelled = v.cancelled := by
    unfold StreamWorker.disconnect
    split_ifs <;> rfl
  cases StreamWorker.step_moves h with
  | cancelled => exact absurd rfl own
  | clientMissing => exact disconnects w
  | clientFound | clientRechecked | subscribeReturned | woke | readReturned | healthReturned => rfl
  | sent delivered next =>
    unfold StreamWorker.send at next
    cases here : w.location with
    | reconnecting | announcing | forwarding | lost =>
      simp only [here, Option.some.injEq, Prod.mk.injEq] at next
      obtain ⟨rfl, _⟩ := next
      rfl
    | _ => simp [here] at next
  | checked next =>
    unfold StreamWorker.check at next
    cases here : w.location with
    | connectCheck | sleepCheck | subscribeCheck | loopCheck | readCheck =>
      simp only [here, Option.some.injEq] at next
      rw [← next]
      rfl
    | subscribed result =>
      simp only [here] at next
      split_ifs at next
      · rw [← Option.some.inj next]
        rfl
      · cases result with
        | ok subscription =>
          rw [← Option.some.inj next]
          exact expects _ _ _
        | error error =>
          rw [← Option.some.inj next]
          exact disconnects w
    | received result =>
      simp only [here] at next
      split_ifs at next
      · rw [← Option.some.inj next]
        rfl
      · rw [← Option.some.inj next]
        unfold StreamWorker.handle
        split
        · split_ifs
          · rfl
          · exact expects _ _ _
        · exact expects _ _ _
        · split_ifs <;> rfl
    | _ => simp [here] at next

/-- A worker that calls `subscribe` has just found its flag clear. -/
theorem worker_subscribing {w w' : StreamWorker} {a : WorkerAction} {o : WorkerOutput}
    (h : w.step a = some (w', o)) (own : a ≠ .cancel) (after : w'.location = .subscribing) :
    w.location = .subscribeCheck ∧ w.cancelled = false := by
  have expects (v : StreamWorker) (n : UInt64) (l : Location) (other : l ≠ .subscribing) :
      (v.expectAfter n l).location ≠ .subscribing := by
    unfold StreamWorker.expectAfter
    split
    · exact nofun
    · exact other
  have disconnects (v : StreamWorker) : v.disconnect.location ≠ .subscribing := by
    unfold StreamWorker.disconnect
    split_ifs <;> exact nofun
  cases StreamWorker.step_moves h with
  | cancelled => exact absurd rfl own
  | clientMissing => exact absurd after (disconnects w)
  | clientFound | subscribeReturned | woke | readReturned => exact nomatch after
  | clientRechecked here flag | healthReturned here flag => cases flag <;> exact nomatch after
  | sent delivered next =>
    unfold StreamWorker.send at next
    cases here : w.location with
    | reconnecting | announcing | forwarding | lost =>
      simp only [here, Option.some.injEq, Prod.mk.injEq] at next
      obtain ⟨rfl, _⟩ := next
      cases delivered <;> exact nomatch after
    | _ => simp [here] at next
  | checked next =>
    unfold StreamWorker.check at next
    cases here : w.location with
    | subscribeCheck =>
      simp only [here, Option.some.injEq] at next
      rw [← next] at after
      cases hc : w.cancelled with
      | false => exact ⟨rfl, rfl⟩
      | true => simp [StreamWorker.goTo, hc] at after
    | connectCheck | sleepCheck | loopCheck | readCheck =>
      simp only [here, Option.some.injEq] at next
      rw [← next] at after
      cases hc : w.cancelled <;> simp [StreamWorker.goTo, hc] at after
    | subscribed result =>
      simp only [here] at next
      split_ifs at next
      · rw [← Option.some.inj next] at after
        exact nomatch after
      · cases result with
        | ok subscription =>
          rw [← Option.some.inj next] at after
          exact absurd after (expects _ _ _ nofun)
        | error error =>
          rw [← Option.some.inj next] at after
          exact absurd after (disconnects w)
    | received result =>
      simp only [here] at next
      split_ifs at next
      · rw [← Option.some.inj next] at after
        exact nomatch after
      · rw [← Option.some.inj next] at after
        unfold StreamWorker.handle at after
        split at after
        · split_ifs at after
          · cases after
          · exact absurd after (expects _ _ _ nofun)
        · exact absurd after (expects _ _ _ nofun)
        · split_ifs at after <;> cases after
    | _ => simp [here] at next

/-- Out of the call of `subscribe`, a subscription leads on. -/
theorem worker_subscribed {w w' : StreamWorker} {a : WorkerAction} {o : WorkerOutput}
    (h : w.step a = some (w', o)) (own : a ≠ .cancel) (before : w.location = .subscribing)
    (after : subscribes w'.location = true) : ∃ d, a = .subscribeReturns (.ok d) := by
  cases StreamWorker.step_moves h with
  | cancelled => exact absurd rfl own
  | subscribeReturned here result =>
    cases result with
    | ok subscription => exact ⟨subscription, rfl⟩
    | error error => cases after
  | checked next => simp [StreamWorker.check, before] at next
  | sent delivered next => simp [StreamWorker.send, before] at next
  | clientFound here | clientMissing here | clientRechecked here | woke here
  | healthReturned here | readReturned here =>
    rw [before] at here
    cases here

variable {σ : Type}

namespace Desktop

/-- The most recent worker waits on the request. -/
def Awaits (s : Desktop σ) (request : Nat) : Prop :=
  ∃ p ∈ s.workers.getLast?, p.request = some request ∧ p.worker.location = .subscribing

/-- Another subscribe is under way: one that the daemon has yet to handle, or one that a superseded
worker is about to send. -/
def OtherUnderWay (s : Desktop σ) (request : Nat) : Prop :=
  (∃ k < s.requests.length, k ≠ request ∧ s.requests[k]?.map (·.handling) = some .pending) ∨
    ∃ p ∈ s.workers.dropLast, p.Sends

instance (s : Desktop σ) (request : Nat) : Decidable (s.Awaits request) :=
  inferInstanceAs (Decidable (∃ p ∈ s.workers.getLast?, _))

instance (s : Desktop σ) (request : Nat) : Decidable (s.OtherUnderWay request) :=
  inferInstanceAs (Decidable (_ ∨ ∃ p ∈ s.workers.dropLast, _))

/-- When the daemon gives the most recent worker its subscription, no other subscribe is under
way. -/
def orderly (s : Desktop σ) (a : DesktopAction) (_ : Desktop σ) : Prop :=
  ∀ request, a = .handle request → s.session.statePoisoned = false → s.Awaits request →
    ¬ s.OtherUnderWay request

instance (s t : Desktop σ) (a : DesktopAction) : Decidable (s.orderly a t) :=
  match a with
  | .handle request =>
    decidable_of_iff (s.session.statePoisoned = false → s.Awaits request →
      ¬ s.OtherUnderWay request) ⟨fun h _ same => by cases same; exact h, fun h => h request rfl⟩
  | .executeSubscribe | .worker _ _ | .connect _ | .abandon _ | .session _ => .isTrue nofun

/-- The steps of the host and the daemon. -/
inductive Moves [StateRepository σ] (streamId : String) (s : Desktop σ) :
    DesktopAction → Desktop σ → Prop where
  | executed : Moves streamId s .executeSubscribe s.executeSubscribe
  | worked {i : Nat} {p : Subscriber} {a : WorkerAction} {w : StreamWorker} {o : WorkerOutput}
      (here : s.workers[i]? = some p) (permitted : s.permits streamId p a = true)
      (step : p.worker.step a = some (w, o)) :
      Moves streamId s (.worker i a) { s with workers := s.workers.set i (p.moved w) }
  | connected {i : Nat} {p : Subscriber} (here : s.workers[i]? = some p) (sends : p.Sends) :
      Moves streamId s (.connect i)
        { s with
          workers := s.workers.set i { p with request := some s.requests.length }
          requests := s.requests ++ [⟨i,.pending⟩] }
  | handled {k j : Nat} (here : s.requests[k]? = some ⟨j,.pending⟩)
      (lock : s.session.statePoisoned = false) :
      Moves streamId s (.handle k)
        ({ s with session := (s.session.subscribe streamId).1 }.settle k ⟨j,.pending⟩
          (.subscribed (s.session.snapshotLocked streamId) s.session.channelCount))
  | refused {k j : Nat} {a : DesktopAction} (here : s.requests[k]? = some ⟨j,.pending⟩)
      (ending : a = .handle k ∨ a = .abandon k) : Moves streamId s a (s.settle k ⟨j,.pending⟩ .refused)
  | session {a : Action} {w : World σ} {o : Output} (other : a ≠ .subscribe)
      (step : s.session.step streamId a = some (w, o)) :
      Moves streamId s (.session a) { s with session := w }

section Steps

variable [StateRepository σ] {streamId : String} {s s' : Desktop σ} {a : DesktopAction}
variable {o : DesktopOutput}

theorem handle_moves {k : Nat} (h : s.handle streamId k = some (s', o)) :
    Moves streamId s (.handle k) s' := by
  unfold handle at h
  split at h
  · rename_i j here
    obtain ⟨same, _⟩ := Prod.mk.inj (Option.some.inj h)
    rw [← same]
    cases lock : s.session.statePoisoned with
    | true =>
      rw [World.subscribe_poisoned streamId lock]
      exact .refused here (.inl rfl)
    | false =>
      rw [World.subscribe_result streamId lock]
      exact .handled here lock
  · exact nomatch h

theorem step_moves (h : s.step streamId a = some (s', o)) : Moves streamId s a s' := by
  cases a with
  | executeSubscribe =>
    obtain ⟨rfl, rfl⟩ := Prod.mk.inj (Option.some.inj h)
    exact .executed
  | worker i action =>
    change s.workerStep streamId i action = _ at h
    unfold workerStep at h
    cases here : s.workers[i]? with
    | none => simp [here] at h
    | some p =>
      simp only [here] at h
      split_ifs at h with permitted
      simp only [Option.map_eq_some_iff, Prod.exists, Prod.mk.injEq] at h
      obtain ⟨w, out, step, rfl, _⟩ := h
      exact .worked here permitted step
  | connect i =>
    change s.connect i = _ at h
    unfold connect at h
    cases here : s.workers[i]? with
    | none => simp [here] at h
    | some p =>
      simp only [here] at h
      split_ifs at h with sends
      obtain ⟨rfl, rfl⟩ := Prod.mk.inj (Option.some.inj h)
      exact .connected here sends
  | handle k => exact handle_moves h
  | abandon k =>
    simp only [step] at h
    split at h
    · obtain ⟨rfl, rfl⟩ := Prod.mk.inj (Option.some.inj h)
      exact .refused ‹_› (.inr rfl)
    · exact nomatch h
  | session action =>
    by_cases other : action = .subscribe
    · subst other
      exact nomatch h
    · have taken : (s.session.step streamId action).map
          (fun r => (({ s with session := r.1 } : Desktop σ), ({ session := r.2 } : DesktopOutput))) =
          some (s', o) := by
        cases action <;> first | exact h | exact absurd rfl other
      simp only [Option.map_eq_some_iff, Prod.exists, Prod.mk.injEq] at taken
      obtain ⟨w, out, step, rfl, _⟩ := taken
      exact .session other step

omit [StateRepository σ] in
/-- What `execute_subscribe_daemon_events` leaves of the workers before. -/
theorem executeSubscribe_worker {j : Nat} {p : Subscriber}
    (h : s.executeSubscribe.workers[j]? = some p) :
    j = s.workers.length ∧ p = .new ∨ ∃ q, s.workers[j]? = some q ∧
      (p = q ∧ s.activeSubscriptionCancel ≠ some j ∨ p = q.cancel) := by
  unfold executeSubscribe at h
  cases registered : s.activeSubscriptionCancel with
  | none =>
    simp only [registered, List.getElem?_append] at h
    split_ifs at h with hj
    · exact .inr ⟨p, h, .inl ⟨rfl, nofun⟩⟩
    · obtain ⟨zero, rfl⟩ : j - s.workers.length = 0 ∧ p = .new := by
        simpa [List.getElem?_singleton, eq_comm] using h
      exact .inl ⟨by omega, rfl⟩
  | some previous =>
    simp only [registered, List.getElem?_append, List.length_modify, List.getElem?_modify] at h
    split_ifs at h with hj same
    · obtain ⟨q, hq, rfl⟩ := Option.map_eq_some_iff.mp h
      exact .inr ⟨q, hq, .inr rfl⟩
    · obtain ⟨q, hq, rfl⟩ := Option.map_eq_some_iff.mp h
      exact .inr ⟨q, hq, .inl ⟨rfl, fun he => same (Option.some.inj he)⟩⟩
    · obtain ⟨zero, rfl⟩ : j - s.workers.length = 0 ∧ p = .new := by
        simpa [List.getElem?_singleton, eq_comm] using h
      exact .inl ⟨by omega, rfl⟩

omit [StateRepository σ] in
theorem executeSubscribe_length : s.executeSubscribe.workers.length = s.workers.length + 1 := by
  unfold executeSubscribe
  cases s.activeSubscriptionCancel <;> simp

omit [StateRepository σ] in
theorem permits_subscription {p : Subscriber} {d : DaemonSubscription}
    (h : s.permits streamId p (.subscribeReturns (.ok d)) = true) :
    ∃ k j ch, p.request = some k ∧ s.requests[k]? = some ⟨j,.subscribed d.initialSnapshot ch⟩ := by
  unfold permits at h
  cases hk : p.request with
  | none => simp [hk] at h
  | some k =>
    simp only [hk, Option.bind_some] at h
    split at h
    · rename_i j snapshot ch hr
      obtain rfl := of_decide_eq_true h
      exact ⟨k, j, ch, rfl, hr⟩
    · exact nomatch h

/-- How a step that starts no worker changes one. -/
structure Descends (s : Desktop σ) (a : DesktopAction) (j : Nat) (q p : Subscriber) : Prop where
  cancelled : p.worker.cancelled = q.worker.cancelled
  sends : p.Sends → q.Sends ∨ q.worker.cancelled = false
  request : ∀ k, p.request = some k →
    q.request = some k ∧ (p.worker.location = q.worker.location ∨
      q.worker.location ≠ .subscribing ∨
      ∃ i snapshot ch, s.requests[k]? = some ⟨i,.subscribed snapshot ch⟩) ∨
    a = .connect j ∧ q.Sends ∧ k = s.requests.length ∧ p.worker.location = .subscribing

/-- Where a worker comes from, in a step that starts none. -/
theorem moves_worker {j : Nat} {p : Subscriber} (h : Moves streamId s a s')
    (other : a ≠ .executeSubscribe) (here : s'.workers[j]? = some p) :
    ∃ q, s.workers[j]? = some q ∧ Descends s a j q p := by
  have same (kept : s.workers[j]? = some p) : ∃ q, s.workers[j]? = some q ∧ Descends s a j q p :=
    ⟨p, kept, rfl, .inl, fun _ held => .inl ⟨held, .inl rfl⟩⟩
  cases h with
  | executed => exact absurd rfl other
  | handled | refused | session => exact same here
  | @worked i q action w out found permitted step =>
    simp only [List.getElem?_set] at here
    split_ifs at here with hij hlt
    · subst hij
      obtain rfl := Option.some.inj here
      have own : action ≠ .cancel := by
        rintro rfl
        exact nomatch permitted
      refine ⟨q, found, worker_cancelled step own, ?_, ?_⟩
      · intro sends
        exact .inr (worker_subscribing step own sends.1).2
      · intro k hk
        unfold Subscriber.moved at hk
        dsimp only at hk
        split_ifs at hk with goesOn
        refine .inl ⟨hk, .inr ?_⟩
        by_cases before : q.worker.location = .subscribing
        · obtain ⟨d, rfl⟩ := worker_subscribed step own before goesOn
          obtain ⟨k', i', ch, hk', hr⟩ := permits_subscription permitted
          obtain rfl := Option.some.inj (hk.symm.trans hk')
          exact .inr ⟨i', _, ch, hr⟩
        · exact .inl before
    · exact same here
  | @connected i q found sends =>
    simp only [List.getElem?_set] at here
    split_ifs at here with hij hlt
    · subst hij
      obtain rfl := Option.some.inj here
      refine ⟨q, found, rfl, fun sent => absurd sent.2 nofun, ?_⟩
      intro k hk
      exact .inr ⟨rfl, sends, (Option.some.inj hk).symm, sends.1⟩
    · exact same here

/-- Where a request comes from. -/
theorem moves_request {k : Nat} {r : SubscribeRequest} (h : Moves streamId s a s')
    (here : s'.requests[k]? = some r) :
    s.requests[k]? = some r ∨
      s.requests[k]? = some ⟨r.worker,.pending⟩ ∧ (r.handling = .refused ∨ a = .handle k ∧
        s.session.statePoisoned = false ∧ s'.session.state.subscriber = some s.session.channelCount ∧
        ∃ snapshot, r.handling = .subscribed snapshot s.session.channelCount) ∨
      a = .connect r.worker ∧ k = s.requests.length ∧ r.handling = .pending ∧
        ∃ q, s.workers[r.worker]? = some q ∧ q.Sends := by
  cases h with
  | executed | worked | session => exact .inl here
  | @connected i q found sends =>
    simp only [List.getElem?_append] at here
    split_ifs at here with hk
    · exact .inl here
    · obtain ⟨zero, rfl⟩ : k - s.requests.length = 0 ∧ r = ⟨i,.pending⟩ := by
        simpa [List.getElem?_singleton, eq_comm] using here
      exact .inr (.inr ⟨rfl, by omega, rfl, q, found, sends⟩)
  | @handled n j found lock =>
    simp only [settle, List.getElem?_set] at here
    split_ifs at here with hnk hlt
    · subst hnk
      obtain rfl := Option.some.inj here
      exact .inr (.inl ⟨found, .inr ⟨rfl, lock, World.subscribe_subscriber streamId lock, _, rfl⟩⟩)
    · exact .inl here
  | @refused n j action found ending =>
    simp only [settle, List.getElem?_set] at here
    split_ifs at here with hnk hlt
    · subst hnk
      obtain rfl := Option.some.inj here
      exact .inr (.inl ⟨found, .inl rfl⟩)
    · exact .inl here

/-- Requests stay with their worker, and what the daemon has made of one stays. -/
theorem moves_known {k : Nat} {r : SubscribeRequest} (h : Moves streamId s a s')
    (here : s.requests[k]? = some r) :
    ∃ r', s'.requests[k]? = some r' ∧ r'.worker = r.worker ∧ (r.handling ≠ .pending → r' = r) := by
  have known : k < s.requests.length := (List.getElem?_eq_some_iff.mp here).1
  cases h with
  | executed | worked | session => exact ⟨r, here, rfl, fun _ => rfl⟩
  | connected =>
    refine ⟨r, ?_, rfl, fun _ => rfl⟩
    simp only [List.getElem?_append_left known, here]
  | @handled n j found lock | @refused n j action found ending =>
    by_cases hnk : n = k
    · subst hnk
      obtain rfl := Option.some.inj (here.symm.trans found)
      exact ⟨_, List.getElem?_set_self known, rfl, fun settled => absurd rfl settled⟩
    · exact ⟨r, (List.getElem?_set_ne hnk).trans here, rfl, fun _ => rfl⟩

theorem moves_length (h : Moves streamId s a s') (other : a ≠ .executeSubscribe) :
    s'.workers.length = s.workers.length := by
  cases h with
  | executed => exact absurd rfl other
  | worked | connected => exact List.length_set
  | handled | refused | session => rfl

end Steps

/-- What every step keeps: the registry holds the flag of the most recent worker, the others are
cancelled, and a worker's request is its own and answered once the call has returned. -/
structure Ordered (s : Desktop σ) : Prop where
  registry : ∀ n, s.workers.length = n + 1 → s.activeSubscriptionCancel = some n
  cancelled : ∀ (j : Nat) p, s.workers[j]? = some p → j + 1 < s.workers.length →
    p.worker.cancelled = true
  held : ∀ (j : Nat) p (k : Nat), s.workers[j]? = some p → p.request = some k →
    ∃ r, s.requests[k]? = some r ∧ r.worker = j ∧
      (p.worker.location = .subscribing ∨ ∃ snapshot ch, r.handling = .subscribed snapshot ch)

/-- No superseded worker has a subscribe under way. -/
structure Quiet (s : Desktop σ) : Prop where
  requests : ∀ k j : Nat, s.requests[k]? = some ⟨j,.pending⟩ → j + 1 = s.workers.length
  workers : ∀ (j : Nat) p, s.workers[j]? = some p → p.Sends → j + 1 = s.workers.length

/-- Nobody else can take the place of the channel. -/
structure Served (s : Desktop σ) (ch : ChannelId) : Prop where
  requests : ∀ k j : Nat, s.requests[k]? ≠ some ⟨j,.pending⟩
  workers : ∀ (j : Nat) p, s.workers[j]? = some p → p.Sends → j + 1 = s.workers.length
  subscriber : s.session.state.subscriber = none ∨ s.session.state.subscriber = some ch

/-- Once the request of the most recent worker is answered, its channel is served. -/
def Alone (s : Desktop σ) : Prop :=
  ∀ i p (k : Nat) j snapshot ch, i + 1 = s.workers.length → s.workers[i]? = some p → p.request = some k →
    s.requests[k]? = some ⟨j,.subscribed snapshot ch⟩ → Served s ch

theorem Served.quiet {s : Desktop σ} {ch : ChannelId} (h : Served s ch) : Quiet s :=
  ⟨fun k j here => absurd here (h.requests k j), h.workers⟩

section Runs

variable [StateRepository σ] {streamId : String} {s s' : Desktop σ} {a : DesktopAction}

theorem Ordered.step (h : Ordered s) (moves : Moves streamId s a s') : Ordered s' := by
  by_cases other : a = .executeSubscribe
  · subst other
    cases moves with
    | refused _ ending => simp at ending
    | executed =>
      refine ⟨?_, ?_, ?_⟩
      · intro n hn
        rw [executeSubscribe_length] at hn
        exact congrArg some (Nat.succ.inj hn)
      · intro j p here hj
        rw [executeSubscribe_length] at hj
        rcases executeSubscribe_worker here with ⟨rfl, _⟩ | ⟨q, hq, ⟨rfl, unregistered⟩ | rfl⟩
        · omega
        · by_cases last : j + 1 = s.workers.length
          · exact absurd (h.registry j last.symm) unregistered
          · exact h.cancelled j p hq (by omega)
        · rfl
      · intro j p k here hk
        rcases executeSubscribe_worker here with ⟨_, rfl⟩ | ⟨q, hq, ⟨rfl, _⟩ | rfl⟩
        · exact nomatch hk
        · exact h.held j p k hq hk
        · exact h.held j q k hq hk
  · have size := moves_length moves other
    refine ⟨?_, ?_, ?_⟩
    · intro n hn
      have kept := h.registry n (size ▸ hn)
      cases moves with
      | executed => exact absurd rfl other
      | worked | connected | handled | refused | session => exact kept
    · intro j p here hj
      obtain ⟨q, hq, descends⟩ := moves_worker moves other here
      rw [descends.cancelled]
      exact h.cancelled j q hq (size ▸ hj)
    · intro j p k here hk
      obtain ⟨q, hq, descends⟩ := moves_worker moves other here
      rcases descends.request k hk with ⟨held, location⟩ | ⟨rfl, sends, rfl, location⟩
      · obtain ⟨r, hr, own, answered⟩ := h.held j q k hq held
        obtain ⟨r', hr', own', same⟩ := moves_known moves hr
        refine ⟨r', hr', own'.trans own, ?_⟩
        have settled (known : ∃ snapshot ch, r.handling = .subscribed snapshot ch) :
            ∃ snapshot ch, r'.handling = .subscribed snapshot ch := by
          obtain ⟨snapshot, ch, handled⟩ := known
          rw [same (by simp [handled])]
          exact ⟨snapshot, ch, handled⟩
        rcases location with location | location | ⟨i, snapshot, ch, known⟩
        · rw [location]
          exact answered.imp_right settled
        · exact .inr (settled (answered.resolve_left location))
        · obtain rfl := Option.some.inj (hr.symm.trans known)
          exact .inr (settled ⟨snapshot, ch, rfl⟩)
      · cases moves with
        | refused _ ending => simp at ending
        | connected found sends' =>
          exact ⟨⟨j,.pending⟩, List.getElem?_concat_length, rfl, .inl location⟩

theorem Quiet.step (ordered : Ordered s) (h : Quiet s) (moves : Moves streamId s a s')
    (other : a ≠ .executeSubscribe) : Quiet s' := by
  have size := moves_length moves other
  refine ⟨?_, ?_⟩
  · intro k j here
    rw [size]
    rcases moves_request moves here with kept | ⟨_, refused | ⟨_, _, _, _, handled⟩⟩ |
        ⟨_, _, _, q, hq, sends⟩
    · exact h.requests k j kept
    · exact nomatch refused
    · exact nomatch handled
    · exact h.workers j q hq sends
  · intro j p here sends
    obtain ⟨q, hq, descends⟩ := moves_worker moves other here
    rw [size]
    rcases descends.sends sends with before | running
    · exact h.workers j q hq before
    · by_cases last : j + 1 < s.workers.length
      · have cancelled := ordered.cancelled j q hq last
        exact nomatch running.symm.trans cancelled
      · have known : j < s.workers.length := (List.getElem?_eq_some_iff.mp hq).1
        omega

/-- While the most recent worker has its request, nothing takes its channel's place. -/
theorem Served.step {i k : Nat} {p : Subscriber} {ch : ChannelId} (ordered : Ordered s)
    (h : Served s ch) (last : i + 1 = s.workers.length) (here : s.workers[i]? = some p)
    (held : p.request = some k) (moves : Moves streamId s a s') (other : a ≠ .executeSubscribe) :
    Served s' ch := by
  refine ⟨?_, (h.quiet.step ordered moves other).workers, ?_⟩
  · intro k' j here'
    rcases moves_request moves here' with kept | ⟨pending, _⟩ | ⟨_, _, _, q, hq, sends⟩
    · exact h.requests k' j kept
    · exact h.requests k' j pending
    · have same : j = i := Nat.succ.inj ((h.workers j q hq sends).trans last.symm)
      rw [same, here] at hq
      obtain rfl := Option.some.inj hq
      exact nomatch held.symm.trans sends.2
  · cases moves with
    | executed => exact absurd rfl other
    | worked | connected | refused => exact h.subscriber
    | handled found => exact absurd found (h.requests _ _)
    | session different step =>
      rcases World.step_keeps step different with kept | dropped
      · rcases h.subscriber with nobody | same
        · exact .inl (kept.trans nobody)
        · exact .inr (kept.trans same)
      · exact .inl dropped

/-- An orderly answer to the most recent worker leaves nobody to take its channel's place. -/
theorem served_of_handled {i k : Nat} {p : Subscriber} {r : SubscribeRequest} {ch : ChannelId}
    {t : Desktop σ} (ordered : Ordered s) (last : i + 1 = s.workers.length)
    (here : s.workers[i]? = some p) (held : p.request = some k)
    (pending : s.requests[k]? = some ⟨r.worker,.pending⟩) (lock : s.session.statePoisoned = false)
    (order : orderly s (.handle k) t) (moves : Moves streamId s (.handle k) s')
    (answered : s'.requests[k]? = some r) (settled : r.handling ≠ .pending)
    (subscriber : s'.session.state.subscriber = some ch) : Served s' ch := by
  have awaited : s.Awaits k := by
    obtain ⟨r', hr, _, answer⟩ := ordered.held i p k here held
    obtain rfl := Option.some.inj (hr.symm.trans pending)
    refine ⟨p, ?_, held, answer.resolve_right (by simp)⟩
    rw [List.getLast?_eq_getElem?, ← last]
    exact here
  have quiet := order k rfl lock awaited
  have size := moves_length moves nofun
  refine ⟨?_, ?_, .inr subscriber⟩
  · intro k' j found
    rcases moves_request moves found with kept | ⟨_, refused | ⟨_, _, _, _, handled⟩⟩ | ⟨wrong, _⟩
    · have known : k' < s.requests.length := (List.getElem?_eq_some_iff.mp kept).1
      by_cases same : k' = k
      · subst same
        obtain rfl := Option.some.inj (answered.symm.trans found)
        exact settled rfl
      · exact quiet (.inl ⟨k', known, same, by rw [kept]; rfl⟩)
    · exact nomatch refused
    · exact nomatch handled
    · exact nomatch wrong
  · intro j q found sends
    obtain ⟨q', hq', descends⟩ := moves_worker moves nofun found
    have known : j < s.workers.length := (List.getElem?_eq_some_iff.mp hq').1
    by_contra superseded
    have before : j + 1 < s.workers.length := by omega
    rcases descends.sends sends with sent | running
    · refine quiet (.inr ⟨q', List.mem_of_getElem? (i := j) ?_, sent⟩)
      rw [List.getElem?_dropLast, if_pos (by omega)]
      exact hq'
    · exact nomatch running.symm.trans (ordered.cancelled j q' hq' before)

theorem Alone.step {t : Desktop σ} (ordered : Ordered s) (h : Alone s)
    (order : orderly s a t) (moves : Moves streamId s a s') : Alone s' := by
  intro i p k j snapshot ch last here held answered
  by_cases other : a = .executeSubscribe
  · subst other
    cases moves with
    | refused _ ending => simp at ending
    | executed =>
      rw [executeSubscribe_length] at last
      rcases executeSubscribe_worker here with ⟨_, rfl⟩ | ⟨q, hq, _⟩
      · exact nomatch held
      · have known : i < s.workers.length := (List.getElem?_eq_some_iff.mp hq).1
        omega
  · rw [moves_length moves other] at last
    obtain ⟨q, hq, descends⟩ := moves_worker moves other here
    have request := moves_request moves answered
    rcases descends.request k held with ⟨before, _⟩ | ⟨rfl, _, rfl, _⟩
    · rcases request with kept | ⟨pending, refused | ⟨rfl, lock, subscriber, _, handled⟩⟩ |
          ⟨_, _, wrong, _⟩
      · exact (h i q k j snapshot ch last hq before kept).step ordered last hq before moves other
      · exact nomatch refused
      · obtain ⟨_, rfl⟩ := Handling.subscribed.inj handled
        exact served_of_handled ordered last hq before pending lock order moves answered nofun
          subscriber
      · exact nomatch wrong
    · rcases request with kept | ⟨pending, _⟩ | ⟨_, _, wrong, _⟩
      · exact absurd (List.getElem?_eq_some_iff.mp kept).1 (Nat.lt_irrefl _)
      · exact absurd (List.getElem?_eq_some_iff.mp pending).1 (Nat.lt_irrefl _)
      · exact nomatch wrong

/-- A subscribe call of the worker has returned a snapshot. -/
def Received (i : Nat) (tr : List (DesktopAction × DesktopOutput)) : Prop :=
  ∃ d o, (.worker i (.subscribeReturns (.ok d)), o) ∈ tr

theorem run_quiet {w : World σ} {tr : List (DesktopAction × DesktopOutput)}
    (run : (desktop σ streamId).Run orderly (.new w) tr s) :
    Ordered s ∧ Alone s ∧ ∀ i, Received i tr → i < s.workers.length ∧
      (i + 1 = s.workers.length → Quiet s) := by
  apply run.history (P := fun tr s => Ordered s ∧ Alone s ∧ ∀ i, Received i tr →
    i < s.workers.length ∧ (i + 1 = s.workers.length → Quiet s))
  · refine ⟨⟨?_, ?_, ?_⟩, ?_, ?_⟩
    · simp [new]
    · simp [new]
    · simp [new]
    · simp [Alone, new]
    · simp [Received]
  · intro tr t a u o h order step
    obtain ⟨ordered, alone, received⟩ := h
    have moves := step_moves step
    refine ⟨ordered.step moves, alone.step ordered order moves, ?_⟩
    intro i ⟨d, o', member⟩
    by_cases other : a = .executeSubscribe
    · subst other
      cases moves with
      | refused _ ending => simp at ending
      | executed =>
        have earlier : Received i tr := by
          rcases List.mem_append.mp member with before | now
          · exact ⟨d, o', before⟩
          · simp at now
        rw [executeSubscribe_length]
        have known := (received i earlier).1
        exact ⟨by omega, by omega⟩
    · have size := moves_length moves other
      have quiet : i < t.workers.length ∧ (i + 1 = t.workers.length → Quiet t) := by
        rcases List.mem_append.mp member with before | now
        · exact received i ⟨d, o', before⟩
        · obtain ⟨rfl, _⟩ := Prod.mk.inj (List.mem_singleton.mp now)
          cases moves with
          | refused _ ending => simp at ending
          | worked found permitted returned =>
            refine ⟨(List.getElem?_eq_some_iff.mp found).1, ?_⟩
            intro last
            obtain ⟨k, j, ch, hk, hr⟩ := permits_subscription permitted
            exact (alone i _ k j _ ch last found hk hr).quiet
      rw [size]
      exact ⟨quiet.1, fun last => (quiet.2 last).step ordered moves other⟩

/-- Once the most recent worker has its snapshot, only requests of its own reach the session, and
while it reads its subscription, events go to that channel or to none. -/
theorem superseded_subscribe_harmless {w : World σ} {tr : List (DesktopAction × DesktopOutput)}
    {i : Nat} (run : (desktop σ streamId).Run orderly (.new w) tr s)
    (latest : i + 1 = s.workers.length) (received : Received i tr) :
    (∀ k s' o, (desktop σ streamId).step s (.handle k) = some (s', o) →
      ∃ r, s.requests[k]? = some r ∧ r.worker = i) ∧
    ∀ p k, s.workers[i]? = some p → p.request = some k → p.worker.location ≠ .subscribing →
      ∃ snapshot ch, s.requests[k]? = some ⟨i,.subscribed snapshot ch⟩ ∧
        (s.session.state.subscriber = none ∨ s.session.state.subscriber = some ch) ∧
        s.session.Hears streamId ch := by
  obtain ⟨ordered, alone, quiet⟩ := run_quiet run
  refine ⟨?_, ?_⟩
  · intro k s' o step
    change s.handle streamId k = _ at step
    unfold handle at step
    split at step
    · rename_i j found
      have own := ((quiet i received).2 latest).requests k j found
      exact ⟨_, found, Nat.succ.inj (own.trans latest.symm)⟩
    · exact nomatch step
  · intro p k here held returned
    obtain ⟨r, hr, own, answer⟩ := ordered.held i p k here held
    obtain ⟨snapshot, ch, handled⟩ := answer.resolve_left returned
    have same : r = ⟨i,.subscribed snapshot ch⟩ := by
      rw [← own, ← handled]
    rw [same] at hr
    exact ⟨snapshot, ch, hr, (alone i p k i snapshot ch latest here held hr).subscriber,
      World.hears streamId s.session ch⟩

end Runs

/-- A worker finds the client and sends its request. -/
def reaches (i : Nat) : List DesktopAction :=
  [.worker i .check, .worker i (.client true), .worker i .check, .connect i]

/-- A worker has its subscription, is superseded, and so has the next one. -/
def oneByOne : List DesktopAction :=
  [.executeSubscribe] ++ reaches 0 ++
    [.handle 0, .worker 0 (.subscribeReturns (.ok ⟨"s",⟨"s",0,none,[]⟩⟩)), .executeSubscribe] ++
    reaches 1 ++ [.handle 1, .worker 1 (.subscribeReturns (.ok ⟨"s",⟨"s",0,none,[]⟩⟩))]

theorem superseded_subscribe_harmless_second :
    ∃ tr s snapshot ch, (desktop Empty "s").Run orderly (.new World.new) tr s ∧
      s.workers.length = 2 ∧ Received 1 tr ∧ s.requests[1]? = some ⟨1,.subscribed snapshot ch⟩ ∧
      s.session.state.subscriber = some ch := by
  have run := Machine.run_of_exec_isSome (desktop Empty "s") orderly (.new World.new) oneByOne
    (by decide +kernel)
  have received : Received 1 (((desktop Empty "s").exec orderly (.new World.new) oneByOne).get
      (by decide +kernel)).1 :=
    ⟨⟨"s",⟨"s",0,none,[]⟩⟩, _, List.mem_of_getElem? (i := 13) rfl⟩
  obtain ⟨snapshot, ch, answered, subscriber, _⟩ :=
    (superseded_subscribe_harmless (i := 1) run rfl received).2 _ 1 rfl rfl nofun
  exact ⟨_, _, snapshot, ch, run, rfl, received, answered, subscriber.resolve_left nofun⟩

/-- A worker is superseded between its last look at its flag and its request. -/
def crossing : List DesktopAction :=
  [.executeSubscribe] ++ reaches 0 ++ [.executeSubscribe] ++ reaches 1 ++
    [.handle 1, .worker 1 (.subscribeReturns (.ok ⟨"s",⟨"s",0,none,[]⟩⟩))]

/-- Its request then takes the subscription of the most recent worker, and the next event. -/
theorem superseded_subscribe_replaces :
    ∃ tr s s' t o o', (desktop Empty "s").Run Machine.anyStep (.new World.new) tr s ∧
      s.workers.length = 2 ∧ Received 1 tr ∧ s.session.state.subscriber = some 0 ∧
      s.requests[0]? = some ⟨0,.pending⟩ ∧
      (desktop Empty "s").step s (.handle 0) = some (s', o) ∧
      s'.session.state.subscriber = some 1 ∧
      (desktop Empty "s").step s' (.session
        (.dispatch ⟨PROTOCOL_VERSION,"r",.openProject "/p",some "k"⟩)) = some (t, o') ∧
      (t.session.channels 0).buffer = [] ∧ (t.session.channels 1).buffer ≠ [] := by
  have run := Machine.run_of_exec_isSome (desktop Empty "s") Machine.anyStep (.new World.new)
    crossing (by decide +kernel)
  exact ⟨_, _, _, _, _, _, run, rfl, ⟨⟨"s",⟨"s",0,none,[]⟩⟩, _, List.mem_of_getElem? (i := 11) rfl⟩,
    rfl, rfl, rfl, rfl, rfl, rfl, nofun⟩

end Desktop

end Kesharon.EventStream

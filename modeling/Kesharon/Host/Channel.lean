import Kesharon.Framework.Blocks
import Kesharon.Host.StreamWorker

namespace Kesharon.Host

open Framework Protocol

namespace DaemonStreamUpdate

def IsSnapshot : DaemonStreamUpdate → Prop
  | .message (.snapshot _) => True
  | _ => False

def IsEvent : DaemonStreamUpdate → Prop
  | .message (.event _) => True
  | _ => False

def IsReconnecting : DaemonStreamUpdate → Prop
  | .reconnecting => True
  | _ => False

/-- The `last_sequence` of a snapshot, the `sequence` of an event. -/
def number : DaemonStreamUpdate → Option UInt64
  | .message (.snapshot snapshot) => some snapshot.lastSequence
  | .message (.event event) => some event.sequence
  | _ => none

/-- An update that may come right after another one. -/
def Follows (previous : DaemonStreamUpdate) : DaemonStreamUpdate → Prop
  | .message (.snapshot _) => True
  | .message (.event event) => ∃ n, previous.number = some n ∧ checkedSucc n = some event.sequence
  | .reconnecting => ∃ n, previous.number = some n
  | .unavailable _ => False

end DaemonStreamUpdate

open DaemonStreamUpdate

/-- Updates from a first snapshot on, each of which may follow the one before it. -/
structure Fed (us : List DaemonStreamUpdate) : Prop where
  first : ∀ u ∈ us.head?, IsSnapshot u
  chain : us.IsChain Follows

/-- The number of the last update. -/
def lastNumber (us : List DaemonStreamUpdate) : Option UInt64 := us.getLast?.bind number

@[simp] theorem lastNumber_append (us : List DaemonStreamUpdate) (u : DaemonStreamUpdate) :
    lastNumber (us ++ [u]) = u.number := by
  simp [lastNumber]

namespace Fed

variable {us : List DaemonStreamUpdate} {u : DaemonStreamUpdate} {n : UInt64}

theorem nil : Fed [] := ⟨by simp, .nil⟩

theorem snapshot (h : Fed us) (hu : IsSnapshot u) : Fed (us ++ [u]) := by
  refine ⟨?_, List.isChain_append.mpr ⟨h.chain, .singleton u, ?_⟩⟩
  · intro v hv
    cases us with
    | nil =>
      obtain rfl : u = v := by simpa using hv
      exact hu
    | cons x xs => exact h.first v hv
  · intro x _ y hy
    obtain rfl : u = y := by simpa using hy
    cases u with
    | message m =>
      cases m with
      | snapshot snapshot => trivial
      | event event => exact hu.elim
    | _ => exact hu.elim

theorem snoc (h : Fed us) (last : lastNumber us = some n)
    (hu : ∀ previous : DaemonStreamUpdate, previous.number = some n → Follows previous u) :
    Fed (us ++ [u]) := by
  refine ⟨?_, List.isChain_append.mpr ⟨h.chain, .singleton u, ?_⟩⟩
  · intro v hv
    cases us with
    | nil => simp [lastNumber] at last
    | cons x xs => exact h.first v hv
  · intro x hx y hy
    obtain rfl : u = y := by simpa using hy
    have hx : us.getLast? = some x := hx
    rw [lastNumber, hx] at last
    exact hu x last

theorem event (h : Fed us) (last : lastNumber us = some n) {event : DaemonEvent}
    (next : checkedSucc n = some event.sequence) : Fed (us ++ [.message (.event event)]) :=
  h.snoc last fun _ hn => ⟨n, hn, next⟩

theorem reconnecting (h : Fed us) (last : lastNumber us = some n) : Fed (us ++ [.reconnecting]) :=
  h.snoc last fun _ hn => ⟨n, hn⟩

end Fed

namespace StreamWorker

/-- What a worker knows of the updates it has sent. Inside its read loop the last one is numbered
and the next number is expected; outside it, as long as no `Reconnecting` is due, the last one is
numbered too. -/
def Agrees (w : StreamWorker) (us : List DaemonStreamUpdate) : Prop :=
  match w.location with
  | .loopCheck | .readCheck | .reading | .received _ | .recheckingClient | .checkingHealth
  | .lost => ∃ n, lastNumber us = some n ∧ checkedSucc n = some w.expectedSequence
  | .announcing snapshot => checkedSucc snapshot.lastSequence = some w.expectedSequence
  | .forwarding (.snapshot snapshot) =>
    checkedSucc snapshot.lastSequence = some w.expectedSequence
  | .forwarding (.event event) => checkedSucc event.sequence = some w.expectedSequence ∧
    ∃ n, lastNumber us = some n ∧ checkedSucc n = some event.sequence
  | .reconnecting => ∃ n, lastNumber us = some n
  | .finished | .panicked => True
  | _ => w.hasConnectedOnce = true → w.isReconnecting = false → ∃ n, lastNumber us = some n

variable {w w' : StreamWorker} {us : List DaemonStreamUpdate}

theorem disconnect_agrees
    (h : w.hasConnectedOnce = true → w.isReconnecting = false → ∃ n, lastNumber us = some n) :
    w.disconnect.Agrees us := by
  unfold disconnect
  split_ifs with hc
  · exact h hc.1 hc.2
  · intro once quiet
    exact absurd ⟨once, quiet⟩ hc

theorem connected_agrees (subscription : DaemonSubscription) :
    (w.connected subscription).Agrees us := by
  unfold connected expectAfter
  cases h : checkedSucc subscription.initialSnapshot.lastSequence with
  | none => trivial
  | some expected => exact h

theorem handle_agrees {result : Except HostError StreamMessage}
    (h : ∃ n, lastNumber us = some n ∧ checkedSucc n = some w.expectedSequence) :
    (w.handle result).Agrees us := by
  obtain ⟨n, last, next⟩ := h
  cases result with
  | error e =>
    unfold handle
    dsimp only
    split_ifs
    · exact ⟨n, last, next⟩
    · exact ⟨n, last, next⟩
  | ok message =>
    cases message with
    | snapshot snapshot =>
      unfold handle expectAfter
      dsimp only
      cases hs : checkedSucc snapshot.lastSequence with
      | none => trivial
      | some expected => exact hs
    | event event =>
      unfold handle
      dsimp only
      split_ifs with mismatch
      · exact ⟨n, last, next⟩
      · have same : event.sequence = w.expectedSequence := by
          by_contra differs
          exact mismatch (.inr differs)
        unfold expectAfter
        cases hs : checkedSucc event.sequence with
        | none => trivial
        | some expected => exact ⟨hs, n, last, same ▸ next⟩

theorem check_agrees (h : w.Agrees us) (hc : w.check = some w') : w'.Agrees us := by
  unfold check at hc
  unfold Agrees at h
  cases hl : w.location with
  | subscribed result =>
    simp only [hl] at h hc
    split_ifs at hc
    · obtain rfl := Option.some.inj hc
      trivial
    · cases result with
      | ok subscription =>
        obtain rfl := Option.some.inj hc
        exact connected_agrees subscription
      | error e =>
        obtain rfl := Option.some.inj hc
        exact disconnect_agrees h
  | received result =>
    simp only [hl] at h hc
    split_ifs at hc
    · obtain rfl := Option.some.inj hc
      intro _ _
      exact ⟨_, h.choose_spec.1⟩
    · obtain rfl := Option.some.inj hc
      exact handle_agrees h
  | loopCheck =>
    simp only [hl, Option.some.injEq] at h hc
    rw [← hc]
    cases w.cancelled
    · exact h
    · intro _ _
      exact ⟨_, h.choose_spec.1⟩
  | connectCheck | sleepCheck | subscribeCheck | readCheck =>
    simp only [hl, Option.some.injEq] at h hc
    rw [← hc]
    cases w.cancelled <;> first | exact h | trivial
  | _ => simp [hl] at hc

theorem send_fed {u : DaemonStreamUpdate} {delivered : Bool} (h : w.Agrees us) (fed : Fed us)
    (hs : w.send delivered = some (w', u)) :
    (Fed (us ++ [u]) ∧ w'.Agrees (us ++ [u])) ∧ (delivered = false → w'.Agrees us) := by
  unfold send at hs
  unfold Agrees at h
  cases hl : w.location with
  | reconnecting =>
    simp only [hl, Option.some.injEq, Prod.mk.injEq] at h hs
    obtain ⟨rfl, rfl⟩ := hs
    obtain ⟨n, last⟩ := h
    have told (vs) : (({ w with isReconnecting := true }).goTo .sleepCheck).Agrees vs :=
      fun _ quiet => absurd quiet (by simp [goTo])
    exact ⟨⟨fed.reconnecting last, told _⟩, fun _ => told _⟩
  | lost =>
    simp only [hl, Option.some.injEq, Prod.mk.injEq] at h hs
    obtain ⟨rfl, rfl⟩ := hs
    obtain ⟨n, last, _⟩ := h
    have told (vs) : (({ w with isReconnecting := true }).goTo .connectCheck).Agrees vs :=
      fun _ quiet => absurd quiet (by simp [goTo])
    exact ⟨⟨fed.reconnecting last, told _⟩, fun _ => told _⟩
  | announcing snapshot =>
    simp only [hl, Option.some.injEq, Prod.mk.injEq] at h hs
    obtain ⟨rfl, rfl⟩ := hs
    refine ⟨⟨fed.snapshot trivial, ?_⟩, ?_⟩
    · cases delivered with
      | false => trivial
      | true => exact ⟨snapshot.lastSequence, lastNumber_append _ _, h⟩
    · rintro rfl
      trivial
  | forwarding message =>
    cases message with
    | snapshot snapshot =>
      simp only [hl, Option.some.injEq, Prod.mk.injEq] at h hs
      obtain ⟨rfl, rfl⟩ := hs
      refine ⟨⟨fed.snapshot trivial, ?_⟩, ?_⟩
      · cases delivered with
        | false => trivial
        | true => exact ⟨snapshot.lastSequence, lastNumber_append _ _, h⟩
      · rintro rfl
        trivial
    | event event =>
      simp only [hl, Option.some.injEq, Prod.mk.injEq] at h hs
      obtain ⟨rfl, rfl⟩ := hs
      obtain ⟨expected, n, last, next⟩ := h
      refine ⟨⟨fed.event last next, ?_⟩, ?_⟩
      · cases delivered with
        | false => trivial
        | true => exact ⟨event.sequence, lastNumber_append _ _, expected⟩
      · rintro rfl
        trivial
  | _ => simp [hl] at hs

/-- One step, for the updates sent and for those delivered alike: an update that counts keeps
the list fed, and one that does not is not missed. -/
theorem step_fed {a : WorkerAction} {o : WorkerOutput} (h : w.Agrees us) (fed : Fed us)
    (hs : w.step a = some (w', o)) :
    (∀ u d, o.sent = some (u, d) → Fed (us ++ [u]) ∧ w'.Agrees (us ++ [u])) ∧
      ((∀ u, o.sent ≠ some (u, true)) → w'.Agrees us) := by
  have quiet (v : StreamWorker) (next : v.Agrees us) (slept : Option Nat) :
      (∀ u d, (⟨none,slept⟩ : WorkerOutput).sent = some (u, d) →
        Fed (us ++ [u]) ∧ v.Agrees (us ++ [u])) ∧
      ((∀ u, (⟨none,slept⟩ : WorkerOutput).sent ≠ some (u, true)) → v.Agrees us) :=
    ⟨fun _ _ none => absurd none (by simp), fun _ => next⟩
  cases step_moves hs with
  | cancelled => exact quiet _ h _
  | checked next => exact quiet _ (check_agrees h next) _
  | sent delivered next =>
    obtain ⟨counts, missed⟩ := send_fed h fed next
    refine ⟨?_, fun never => missed ?_⟩
    · intro u d hu
      obtain ⟨rfl, rfl⟩ := Prod.mk.inj (Option.some.inj hu)
      exact counts
    · cases delivered with
      | false => rfl
      | true => exact absurd rfl (never _)
  | clientMissing here =>
    simp only [Agrees, here] at h
    exact quiet _ (disconnect_agrees h) _
  | clientRechecked here present =>
    simp only [Agrees, here] at h
    refine quiet _ ?_ _
    cases present <;> exact h
  | healthReturned here ok =>
    simp only [Agrees, here] at h
    refine quiet _ ?_ _
    cases ok <;> exact h
  | clientFound here | subscribeReturned here | woke here | readReturned here =>
    simp only [Agrees, here] at h
    refine quiet _ ?_ _
    exact h

end StreamWorker

/-- The updates a trace sends, in order. -/
def sentUpdates (tr : List (WorkerAction × WorkerOutput)) : List DaemonStreamUpdate :=
  tr.filterMap fun p => p.2.sent.map Prod.fst

/-- Those of them that the channel took. -/
def deliveredUpdates (tr : List (WorkerAction × WorkerOutput)) : List DaemonStreamUpdate :=
  tr.filterMap fun p => p.2.sent.bind fun r => if r.2 then some r.1 else none

section Runs

variable {w : StreamWorker} {tr : List (WorkerAction × WorkerOutput)}
  {ok : StreamWorker → WorkerAction → StreamWorker → Prop}

theorem run_sent (run : streamWorker.Run ok .new tr w) :
    Fed (sentUpdates tr) ∧ w.Agrees (sentUpdates tr) := by
  apply run.history (P := fun tr w => Fed (sentUpdates tr) ∧ w.Agrees (sentUpdates tr))
  · exact ⟨.nil, fun once => absurd once (by simp [StreamWorker.new])⟩
  · intro tr w a v o ⟨fed, agrees⟩ _ hs
    obtain ⟨counts, missed⟩ := StreamWorker.step_fed agrees fed hs
    have cut : sentUpdates (tr ++ [(a, o)]) = sentUpdates tr ++ (o.sent.map Prod.fst).toList := by
      cases h : o.sent <;> simp [sentUpdates, h]
    rw [cut]
    cases h : o.sent with
    | none => simpa using ⟨fed, missed (by simp [h])⟩
    | some r => exact counts r.1 r.2 h

theorem run_delivered (run : streamWorker.Run ok .new tr w) :
    Fed (deliveredUpdates tr) ∧ w.Agrees (deliveredUpdates tr) := by
  apply run.history (P := fun tr w => Fed (deliveredUpdates tr) ∧ w.Agrees (deliveredUpdates tr))
  · exact ⟨.nil, fun once => absurd once (by simp [StreamWorker.new])⟩
  · intro tr w a v o ⟨fed, agrees⟩ _ hs
    obtain ⟨counts, missed⟩ := StreamWorker.step_fed agrees fed hs
    by_cases taken : ∃ u, o.sent = some (u, true)
    · obtain ⟨u, hu⟩ := taken
      have cut : deliveredUpdates (tr ++ [(a, o)]) = deliveredUpdates tr ++ [u] := by
        simp [deliveredUpdates, hu]
      rw [cut]
      exact counts u true hu
    · have cut : deliveredUpdates (tr ++ [(a, o)]) = deliveredUpdates tr := by
        cases h : o.sent with
        | none => simp [deliveredUpdates, h]
        | some r =>
          obtain ⟨u, d⟩ := r
          cases d with
          | false => simp [deliveredUpdates, h]
          | true => exact absurd ⟨u, h⟩ taken
      rw [cut]
      exact ⟨fed, missed fun u hu => taken ⟨u, hu⟩⟩

end Runs

/-- What the webview sees: from a first snapshot on, blocks of snapshots and events that
`Reconnecting` closes, each event numbered one more than what is right before it. -/
structure WellFed (us : List DaemonStreamUpdate) : Prop where
  grammar : ∃ rest, us ++ rest ∈ blocks IsSnapshot IsEvent IsReconnecting
  first : ∀ u, us.head? = some u → IsSnapshot u
  apart : ∀ xs ys, us ≠ xs ++ .reconnecting :: .reconnecting :: ys
  successive : ∀ xs ys previous event, us = xs ++ previous :: .message (.event event) :: ys →
    ∃ n, previous.number = some n ∧ event.sequence.toNat = n.toNat + 1

theorem DaemonStreamUpdate.Follows.kind {previous u : DaemonStreamUpdate} (h : Follows previous u) :
    (IsSnapshot u ∨ IsEvent u ∨ IsReconnecting u) ∧ (IsSnapshot u ∨ ¬ IsReconnecting previous) := by
  have numbered (n) (hn : previous.number = some n) : ¬ IsReconnecting previous := by
    cases previous with
    | reconnecting => simp [number] at hn
    | message m => exact id
    | unavailable m => exact id
  cases u with
  | message m =>
    cases m with
    | snapshot snapshot => exact ⟨.inl trivial, .inl trivial⟩
    | event event => exact ⟨.inr (.inl trivial), .inr (numbered _ h.choose_spec.1)⟩
  | reconnecting => exact ⟨.inr (.inr trivial), .inr (numbered _ h.choose_spec)⟩
  | unavailable m => exact h.elim

theorem Fed.wellFed {us : List DaemonStreamUpdate} (h : Fed us) : WellFed us := by
  have pairs := List.isChain_iff_forall_rel_of_append_cons_cons.mp h.chain
  refine ⟨?_, h.first, ?_, ?_⟩
  · apply prefix_of_blocks ?_ h.first ?_ ⟨.reconnecting, trivial⟩
    · intro u hu
      obtain ⟨xs, ys, rfl⟩ := List.append_of_mem hu
      cases xs using List.reverseRecOn with
      | nil => exact .inl (h.first u rfl)
      | append_singleton xs previous =>
        exact (pairs (by simp : xs ++ [previous] ++ u :: ys = xs ++ previous :: u :: ys)).kind.1
    · exact h.chain.imp fun _ _ follows => follows.kind.2
  · intro xs ys split
    obtain ⟨n, none⟩ := pairs split
    exact absurd none (by simp [number])
  · intro xs ys previous event split
    obtain ⟨n, hn, next⟩ := pairs split
    exact ⟨n, hn, (checkedSucc_eq_some.mp next).2⟩

section Anomalies

variable {w w' : StreamWorker} {a : WorkerAction} {o : WorkerOutput}
  {tr : List (WorkerAction × WorkerOutput)}

theorem sentUpdates_append (xs ys : List (WorkerAction × WorkerOutput)) :
    sentUpdates (xs ++ ys) = sentUpdates xs ++ sentUpdates ys := by
  simp [sentUpdates]

/-- A worker that can send nothing but `Reconnecting` next: it has decoded an event that is not
the expected one, or has seen the loss, or has been cancelled. -/
def StreamWorker.Broken (w : StreamWorker) : Prop :=
  (∃ event, w.location = .received (.ok (.event event)) ∧ event.sequence ≠ w.expectedSequence) ∨
    w.location = .lost ∨
    w.cancelled = true ∧ (w.location = .connectCheck ∨ w.location = .finished)

theorem StreamWorker.Broken.step (h : w.Broken) (hs : w.step a = some (w', o)) :
    (o.sent = none ∧ w'.Broken) ∨ ∃ d, o.sent = some (.reconnecting, d) := by
  have elsewhere {l : Location} (here : w.location = l)
      (other : ∀ event, w.location = .received (.ok (.event event)) → False)
      (lost : w.location = .lost → False) (idle : w.location = .connectCheck → False)
      (done : w.location = .finished → False) : False := by
    rcases h with ⟨event, at', _⟩ | at' | ⟨_, at' | at'⟩
    · exact other event at'
    · exact lost at'
    · exact idle at'
    · exact done at'
  cases step_moves hs with
  | cancelled =>
    refine .inl ⟨rfl, ?_⟩
    rcases h with at' | at' | ⟨_, at'⟩
    · exact .inl at'
    · exact .inr (.inl at')
    · exact .inr (.inr ⟨rfl, at'⟩)
  | checked next =>
    refine .inl ⟨rfl, ?_⟩
    unfold check at next
    rcases h with ⟨event, at', differs⟩ | at' | ⟨cancelled, at' | at'⟩
    · simp only [at'] at next
      split_ifs at next with cancelled
      · obtain rfl := Option.some.inj next
        exact .inr (.inr ⟨cancelled, .inl rfl⟩)
      · obtain rfl := Option.some.inj next
        refine .inr (.inl ?_)
        simp only [handle]
        rw [if_pos (.inr differs)]
        rfl
    · simp [at'] at next
    · simp only [at', cancelled, if_true, Option.some.injEq] at next
      rw [← next]
      exact .inr (.inr ⟨cancelled, .inr rfl⟩)
    · simp [at'] at next
  | sent delivered next =>
    unfold send at next
    rcases h with ⟨event, at', _⟩ | at' | ⟨_, at' | at'⟩
    · simp [at'] at next
    · simp only [at', Option.some.injEq, Prod.mk.injEq] at next
      obtain ⟨_, rfl⟩ := next
      exact .inr ⟨delivered, rfl⟩
    · simp [at'] at next
    · simp [at'] at next
  | clientFound here | clientMissing here | clientRechecked here | subscribeReturned here
  | woke here | readReturned here | healthReturned here =>
    exact (elsewhere here (by simp [here]) (by simp [here]) (by simp [here]) (by simp [here])).elim

/-- What is sent first by a worker that sends nothing until then. -/
theorem run_first {ok : StreamWorker → WorkerAction → StreamWorker → Prop}
    {ys : List (WorkerAction × WorkerOutput)} {Silent : StreamWorker → Prop}
    (First : DaemonStreamUpdate → Prop) (silent : Silent w)
    (step : ∀ v a v' o, Silent v → v.step a = some (v', o) →
      (o.sent = none ∧ Silent v') ∨ ∃ u d, o.sent = some (u, d) ∧ First u)
    (run : streamWorker.Run ok w ys w') :
    sentUpdates ys = [] ∨ ∃ u rest, sentUpdates ys = u :: rest ∧ First u := by
  have both : (sentUpdates ys = [] ∧ Silent w') ∨
      ∃ u rest, sentUpdates ys = u :: rest ∧ First u := by
    apply run.history (P := fun ys w' => (sentUpdates ys = [] ∧ Silent w') ∨
      ∃ u rest, sentUpdates ys = u :: rest ∧ First u)
    · exact .inl ⟨rfl, silent⟩
    · intro tr v a v' o h _ hs
      rw [sentUpdates_append]
      rcases h with ⟨nothing, still⟩ | ⟨u, rest, said, first⟩
      · rw [nothing]
        rcases step v a v' o still hs with ⟨none, still'⟩ | ⟨u, d, said, first⟩
        · exact .inl ⟨by simp [sentUpdates, none], still'⟩
        · exact .inr ⟨u, [], by simp [sentUpdates, said], first⟩
      · exact .inr ⟨u, rest ++ sentUpdates [(a, o)], by rw [said, List.cons_append], first⟩
  exact both.imp (fun h => h.1) id

/-- After an anomaly nothing is sent but `Reconnecting`, and only a snapshot after it. -/
theorem run_after_anomaly {ok : StreamWorker → WorkerAction → StreamWorker → Prop}
    {xs ys : List (WorkerAction × WorkerOutput)} (before : streamWorker.Run ok .new xs w)
    (broken : w.Broken) (after : streamWorker.Run ok w ys w') :
    sentUpdates ys = [] ∨
      ∃ rest, sentUpdates ys = .reconnecting :: rest ∧ ∀ u, rest.head? = some u → IsSnapshot u := by
  have step (v : StreamWorker) (a : WorkerAction) (v' : StreamWorker) (o : WorkerOutput)
      (h : v.Broken) (hs : v.step a = some (v', o)) :
      (o.sent = none ∧ v'.Broken) ∨ ∃ u d, o.sent = some (u, d) ∧ u = .reconnecting :=
    (h.step hs).imp id fun ⟨d, said⟩ => ⟨_, d, said, rfl⟩
  have first := run_first _ broken step after
  rcases first with silent | ⟨_, rest, said, rfl⟩
  · exact .inl silent
  · refine .inr ⟨rest, said, ?_⟩
    intro u hu
    obtain ⟨more, rfl⟩ : ∃ more, rest = u :: more := List.head?_eq_some_iff.mp hu
    have fed := (run_sent (before.append after)).1
    rw [sentUpdates_append, said] at fed
    have follows := List.isChain_iff_forall_rel_of_append_cons_cons.mp fed.chain rfl
    exact follows.kind.2.resolve_right (not_not.mpr trivial)

end Anomalies

/-- The updates of one stream worker, against any server and cancelled at any point: those it
sends, and those of them that the channel takes. Once the stream is lost, or an event is decoded
that is not numbered one more than the last update, nothing is forwarded before a fresh
snapshot. -/
theorem channel_updates {w : StreamWorker} {tr : List (WorkerAction × WorkerOutput)}
    (run : streamWorker.Run Machine.anyStep .new tr w) :
    WellFed (sentUpdates tr) ∧ WellFed (deliveredUpdates tr) ∧
      ∀ xs ys w₁, tr = xs ++ ys → streamWorker.Run Machine.anyStep .new xs w₁ →
        streamWorker.Run Machine.anyStep w₁ ys w →
        (w₁.location = .lost ∨ ∃ event, w₁.location = .received (.ok (.event event)) ∧
          ∀ n, lastNumber (sentUpdates xs) = some n → event.sequence.toNat ≠ n.toNat + 1) →
        sentUpdates ys = [] ∨ ∃ rest, sentUpdates ys = .reconnecting :: rest ∧
          ∀ u, rest.head? = some u → IsSnapshot u := by
  refine ⟨(run_sent run).1.wellFed, (run_delivered run).1.wellFed, ?_⟩
  intro xs ys w₁ _ before after anomaly
  rcases anomaly with lost | ⟨event, here, anomaly⟩
  · exact run_after_anomaly before (.inr (.inl lost)) after
  have agrees := (run_sent before).2
  simp only [StreamWorker.Agrees, here] at agrees
  obtain ⟨n, last, next⟩ := agrees
  have differs : event.sequence ≠ w₁.expectedSequence := by
    intro same
    rw [← same] at next
    exact anomaly n last (checkedSucc_eq_some.mp next).2
  have broken : w₁.Broken := .inl ⟨event, here, differs⟩
  exact run_after_anomaly before broken after

/-- A snapshot and an event are forwarded; an event with a gap is not, and the worker starts over
with a fresh snapshot. -/
theorem channel_updates_gap :
    ∃ tr w, streamWorker.Run Machine.anyStep .new tr w ∧ WellFed (deliveredUpdates tr) ∧
      (deliveredUpdates tr).map number = [some 7, some 8, none, some 9] := by
  have run := Machine.run_of_exec_isSome streamWorker Machine.anyStep .new [
    .check, .client true, .check, .subscribeReturns (.ok ⟨"s",⟨"s",7,none,[]⟩⟩), .check, .send true,
    .check, .check,
    .readReturns (.ok (.event ⟨PROTOCOL_VERSION,"s",8,.operationCancelled "r"⟩)), .check, .send true,
    .check, .check,
    .readReturns (.ok (.event ⟨PROTOCOL_VERSION,"s",10,.operationCancelled "r"⟩)), .check, .send true,
    .check, .client true, .check, .subscribeReturns (.ok ⟨"s",⟨"s",9,none,[]⟩⟩), .check,
    .send true] (by decide)
  exact ⟨_, _, run, (channel_updates run).2.1, by decide⟩

end Kesharon.Host

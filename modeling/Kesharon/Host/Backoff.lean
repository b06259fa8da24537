import Kesharon.Host.StreamWorker

namespace Kesharon.Host

open Framework Protocol

/-- The delay behind so many failures in a row and one more. -/
def delay (failures : Nat) : Nat := min (50 * 2 ^ failures) 1000

theorem nextBackoff_delay (n : Nat) : nextBackoff (delay n) = delay (n + 1) := by
  unfold nextBackoff delay MAX_BACKOFF
  have double : 50 * 2 ^ (n + 1) = 50 * 2 ^ n * 2 := by rw [pow_succ, Nat.mul_assoc]
  rw [double]
  generalize 50 * 2 ^ n = d
  dsimp only
  split_ifs
  · omega
  · omega

theorem le_delay (n : Nat) : 50 ≤ delay n := by
  have one := Nat.one_le_two_pow (n := n)
  unfold delay
  omega

def WorkerAction.endsAttempt : WorkerAction → Bool
  | .subscribeReturns _ => true
  | _ => false

/-- What is seen of the attempts of a worker to obtain a snapshot: whether it has a subscription,
the failures since the last success, and the sleeps since then. -/
structure Attempts where
  subscribed : Bool
  failures : Nat
  delays : List Nat
  deriving DecidableEq, Repr

namespace Attempts

def fail (k : Attempts) : Attempts := { k with subscribed := false, failures := k.failures + 1 }

/-- A client that is missing counts as a failure, unless a lively subscription asks for it. -/
def after (k : Attempts) (p : WorkerAction × WorkerOutput) : Attempts :=
  let k' : Attempts := { k with delays := k.delays ++ p.2.slept.toList }
  match p.1 with
  | .subscribeReturns (.ok _) => ⟨true,0,[]⟩
  | .subscribeReturns (.error _) => k'.fail
  | .client false => if k.subscribed then k' else k'.fail
  | .send _ =>
    match p.2.sent with
    | some (.reconnecting, _) => { k' with subscribed := false }
    | _ => k'
  | _ => k'

/-- Without a sleep, and but for what counts as success, failure or loss, nothing is seen. -/
theorem after_quiet (k : Attempts) {a : WorkerAction} (succeeded : ∀ r, a ≠ .subscribeReturns r)
    (missing : a ≠ .client false ∨ k.subscribed = true) :
    k.after (a, {}) = k := by
  have same : ({ k with delays := k.delays ++ (none : Option Nat).toList } : Attempts) = k := by
    rw [Option.toList_none, List.append_nil]
  cases a with
  | subscribeReturns r => exact absurd rfl (succeeded r)
  | client present =>
    cases present with
    | true => exact same
    | false =>
      have on := missing.resolve_left (not_not.mpr rfl)
      unfold after
      dsimp only
      rw [if_pos on]
      exact same
  | _ => exact same

/-- All failures but so many have been slept for, each one with its delay. -/
structure Owes (k : Attempts) (n : Nat) : Prop where
  count : k.failures = k.delays.length + n
  delays : k.delays = (List.range k.delays.length).map delay

theorem Owes.fail {k : Attempts} (h : k.Owes 0) : k.fail.Owes 1 :=
  ⟨congrArg (· + 1) h.count, h.delays⟩

theorem Owes.sleep {k : Attempts} (h : k.Owes 1) :
    ({ k with delays := k.delays ++ [delay k.delays.length] } : Attempts).Owes 0 := by
  obtain ⟨count, delays⟩ := h
  refine ⟨?_, ?_⟩
  · dsimp only
    rw [List.length_append, List.length_singleton]
    omega
  · dsimp only
    rw [List.length_append, List.length_singleton, List.range_succ, List.map_append, ← delays]
    rfl

end Attempts

def attempts (tr : List (WorkerAction × WorkerOutput)) : Attempts :=
  tr.foldl Attempts.after ⟨false,0,[]⟩

namespace StreamWorker

/-- A worker in the loop behind a subscription. -/
def Attached (k : Attempts) (w : StreamWorker) : Prop := k = ⟨true,0,[]⟩ ∧ w.backoff = delay 0

/-- A worker that goes for a subscription next. -/
def Ready (k : Attempts) (w : StreamWorker) : Prop :=
  k.subscribed = false ∧ w.backoff = delay k.failures ∧ k.Owes 0

/-- A worker that has failed and will sleep. -/
def Due (k : Attempts) (w : StreamWorker) : Prop :=
  k.subscribed = false ∧ w.backoff = delay k.delays.length ∧ k.Owes 1

/-- What a worker's backoff has to do with its attempts, by where it stands. -/
def Backs (k : Attempts) (w : StreamWorker) : Prop :=
  match w.location with
  | .connectCheck => Ready k w ∨ w.cancelled = true ∧ k.Owes 0
  | .readingClient | .subscribeCheck | .subscribing => Ready k w
  | .reconnecting | .sleepCheck | .sleeping => Due k w
  | .subscribed (.ok _) => k = ⟨true,0,[]⟩
  | .subscribed (.error _) => Due k w ∨ w.cancelled = true ∧ k.Owes 0
  | .announcing _ | .loopCheck | .readCheck | .reading | .received _ | .forwarding _
  | .recheckingClient | .checkingHealth | .lost => Attached k w
  | .finished | .panicked => k.Owes 0 ∨ k.Owes 1

variable {k : Attempts} {w w' : StreamWorker} {a : WorkerAction} {o : WorkerOutput}

theorem Attached.owes (h : Attached k w) : k.Owes 0 := by
  rw [h.1]
  exact ⟨rfl, rfl⟩

theorem Ready.fail (h : Ready k w) : Due k.fail w := by
  obtain ⟨_, backoff, owes⟩ := h
  refine ⟨rfl, ?_, owes.fail⟩
  rw [backoff, owes.count]
  rfl

theorem backs_disconnect (h : Due k w) : w.disconnect.Backs k := by
  unfold disconnect
  split_ifs
  · exact h
  · exact h

theorem backs_connected (subscription : DaemonSubscription) :
    (w.connected subscription).Backs ⟨true,0,[]⟩ := by
  unfold connected expectAfter
  cases checkedSucc subscription.initialSnapshot.lastSequence with
  | none => exact .inl ⟨rfl, rfl⟩
  | some expected => exact ⟨rfl, rfl⟩

theorem backs_handle (result : Except HostError StreamMessage) (h : Attached k w) :
    (w.handle result).Backs k := by
  have expects (v : StreamWorker) (sequence : UInt64) (message : StreamMessage)
      (same : Attached k v) : (v.expectAfter sequence (.forwarding message)).Backs k := by
    unfold expectAfter
    cases checkedSucc sequence with
    | none => exact .inl h.owes
    | some expected => exact same
  cases result with
  | error e =>
    simp only [handle]
    split_ifs
    · exact h
    · exact h
  | ok message =>
    cases message with
    | snapshot snapshot => exact expects _ _ _ h
    | event event =>
      simp only [handle]
      split_ifs
      · exact h
      · exact expects _ _ _ h

theorem check_backs (h : w.Backs k) (next : w.check = some w') : w'.Backs k := by
  unfold check at next
  unfold Backs at h
  cases here : w.location with
  | connectCheck =>
    simp only [here, Option.some.injEq] at h next
    rw [← next]
    cases cancelled : w.cancelled with
    | true => exact .inl (h.elim (fun ready => ready.2.2) fun stopped => stopped.2)
    | false => exact h.resolve_right fun stopped => absurd stopped.1 (by simp [cancelled])
  | sleepCheck =>
    simp only [here, Option.some.injEq] at h next
    rw [← next]
    cases w.cancelled with
    | true => exact .inr h.2.2
    | false => exact h
  | subscribeCheck =>
    simp only [here, Option.some.injEq] at h next
    rw [← next]
    cases cancelled : w.cancelled with
    | true => exact .inr ⟨cancelled, h.2.2⟩
    | false => exact h
  | subscribed result =>
    simp only [here] at h next
    split_ifs at next with cancelled
    · obtain rfl := Option.some.inj next
      cases result with
      | ok subscription =>
        have empty : k = ⟨true,0,[]⟩ := h
        rw [empty]
        exact .inl ⟨rfl, rfl⟩
      | error e =>
        exact h.elim (fun due => .inr due.2.2) fun stopped => .inl stopped.2
    · cases result with
      | ok subscription =>
        obtain rfl := Option.some.inj next
        have empty : k = ⟨true,0,[]⟩ := h
        rw [empty]
        exact backs_connected subscription
      | error e =>
        obtain rfl := Option.some.inj next
        exact backs_disconnect (h.resolve_right fun stopped => cancelled stopped.1)
  | loopCheck =>
    simp only [here, Option.some.injEq] at h next
    rw [← next]
    cases cancelled : w.cancelled with
    | true => exact .inr ⟨cancelled, h.owes⟩
    | false => exact h
  | readCheck =>
    simp only [here, Option.some.injEq] at h next
    rw [← next]
    cases w.cancelled with
    | true => exact h
    | false => exact h
  | received result =>
    simp only [here] at h next
    split_ifs at next with cancelled
    · obtain rfl := Option.some.inj next
      exact .inr ⟨cancelled, h.owes⟩
    · obtain rfl := Option.some.inj next
      exact backs_handle result h
  | _ => simp [here] at next

theorem send_backs {delivered : Bool} {u : DaemonStreamUpdate} (h : w.Backs k)
    (next : w.send delivered = some (w', u)) :
    w'.Backs (k.after (.send delivered, { sent := some (u, delivered) })) := by
  have kept : ({ k with delays := k.delays ++ (none : Option Nat).toList } : Attempts) = k := by
    rw [Option.toList_none, List.append_nil]
  unfold send at next
  unfold Backs at h
  cases here : w.location with
  | reconnecting =>
    simp only [here, Option.some.injEq, Prod.mk.injEq] at h next
    obtain ⟨rfl, rfl⟩ := next
    have same : ({ k with subscribed := false } : Attempts) = k := by rw [← h.1]
    unfold Attempts.after
    dsimp only
    rw [Option.toList_none, List.append_nil, same]
    exact h
  | announcing snapshot =>
    simp only [here, Option.some.injEq, Prod.mk.injEq] at h next
    obtain ⟨rfl, rfl⟩ := next
    unfold Attempts.after
    dsimp only
    rw [kept]
    cases delivered with
    | false => exact .inl h.owes
    | true => exact h
  | forwarding message =>
    simp only [here, Option.some.injEq, Prod.mk.injEq] at h next
    obtain ⟨rfl, rfl⟩ := next
    unfold Attempts.after
    dsimp only
    rw [kept]
    cases delivered with
    | false => exact .inl h.owes
    | true => exact h
  | lost =>
    simp only [here, Option.some.injEq, Prod.mk.injEq] at h next
    obtain ⟨rfl, rfl⟩ := next
    obtain ⟨rfl, backoff⟩ := h
    exact .inl ⟨rfl, backoff, rfl, rfl⟩
  | _ => simp [here] at next

theorem backs_step (h : w.Backs k) (hs : w.step a = some (w', o)) :
    w'.Backs (k.after (a, o)) := by
  cases step_moves hs with
  | cancelled =>
    rw [k.after_quiet (by simp) (.inl (by simp))]
    unfold Backs at h ⊢
    dsimp only
    cases here : w.location with
    | connectCheck =>
      simp only [here] at h
      exact h.imp id fun stopped => ⟨rfl, stopped.2⟩
    | subscribed result =>
      simp only [here] at h
      cases result with
      | ok subscription => exact h
      | error e => exact h.imp id fun stopped => ⟨rfl, stopped.2⟩
    | _ =>
      simp only [here] at h
      exact h
  | checked next =>
    rw [k.after_quiet (by simp) (.inl (by simp))]
    exact check_backs h next
  | clientFound here =>
    rw [k.after_quiet (by simp) (.inl (by simp))]
    simp only [Backs, here] at h
    exact h
  | clientMissing here =>
    simp only [Backs, here] at h
    have failed : k.after (.client false, {}) = k.fail := by
      unfold Attempts.after
      dsimp only
      rw [if_neg (by simp [h.1]), Option.toList_none, List.append_nil]
    rw [failed]
    exact backs_disconnect h.fail
  | clientRechecked here present =>
    simp only [Backs, here] at h
    have on : k.subscribed = true := by rw [h.1]
    rw [k.after_quiet (by simp) (.inr on)]
    cases present with
    | false => exact h
    | true => exact h
  | subscribeReturned here result =>
    simp only [Backs, here] at h
    cases result with
    | ok subscription => exact rfl
    | error e =>
      have failed : k.after (.subscribeReturns (.error e), {}) = k.fail := by
        unfold Attempts.after
        dsimp only
        rw [Option.toList_none, List.append_nil]
      rw [failed]
      exact .inl h.fail
  | sent delivered next => exact send_backs h next
  | woke here =>
    simp only [Backs, here] at h
    obtain ⟨apart, backoff, owes⟩ := h
    have slept : k.after (.wake, { slept := some w.backoff }) =
        { k with delays := k.delays ++ [delay k.delays.length] } := by
      rw [← backoff]
      rfl
    rw [slept]
    refine .inl ⟨apart, ?_, owes.sleep⟩
    change nextBackoff w.backoff = delay k.failures
    rw [backoff, nextBackoff_delay, owes.count]
  | readReturned here result =>
    rw [k.after_quiet (by simp) (.inl (by simp))]
    simp only [Backs, here] at h
    exact h
  | healthReturned here ok =>
    rw [k.after_quiet (by simp) (.inl (by simp))]
    simp only [Backs, here] at h
    cases ok with
    | false => exact h
    | true => exact h

theorem Backs.owes (h : w.Backs k) : k.Owes 0 ∨ k.Owes 1 := by
  unfold Backs at h
  split at h
  · exact .inl (h.elim (fun ready => ready.2.2) fun stopped => stopped.2)
  · exact .inl h.2.2
  · exact .inl h.2.2
  · exact .inl h.2.2
  · exact .inr h.2.2
  · exact .inr h.2.2
  · exact .inr h.2.2
  · rw [h]
    exact .inl ⟨rfl, rfl⟩
  · exact h.elim (fun due => .inr due.2.2) fun stopped => .inl stopped.2
  all_goals first | exact .inl h.owes | exact h

end StreamWorker

section Runs

variable {k : Attempts} {w : StreamWorker} {tr ys : List (WorkerAction × WorkerOutput)}

/-- A list of steps in which no attempt ends. -/
abbrev OneAttempt (ys : List (WorkerAction × WorkerOutput)) : Prop :=
  ∀ p ∈ ys, p.1.endsAttempt = false

/-- The worker has no subscription, asks for a client, and there is none. -/
def Misses (k : Attempts) (ys : List (WorkerAction × WorkerOutput)) : Prop :=
  ∃ ys₁ o ys₂, ys = ys₁ ++ (.client false, o) :: ys₂ ∧
    (ys₁.foldl Attempts.after k).subscribed = false

theorem after_delays {p : WorkerAction × WorkerOutput} (within : p.1.endsAttempt = false) :
    (k.after p).delays = k.delays ++ p.2.slept.toList := by
  obtain ⟨a, o⟩ := p
  unfold Attempts.after
  cases a with
  | subscribeReturns r => cases within
  | client present =>
    cases present with
    | true => rfl
    | false =>
      dsimp only
      split_ifs <;> rfl
  | send delivered =>
    dsimp only
    split <;> rfl
  | _ => rfl

theorem after_failures {p : WorkerAction × WorkerOutput} (within : p.1.endsAttempt = false) :
    (k.after p).failures =
      if p.1 = .client false ∧ k.subscribed = false then k.failures + 1 else k.failures := by
  obtain ⟨a, o⟩ := p
  unfold Attempts.after
  cases a with
  | subscribeReturns r => cases within
  | client present =>
    cases present with
    | true => rfl
    | false =>
      cases on : k.subscribed with
      | true => rfl
      | false => rfl
  | send delivered =>
    dsimp only
    split <;> rfl
  | _ => rfl

theorem foldl_delays (within : OneAttempt ys) :
    (ys.foldl Attempts.after k).delays = k.delays ++ ys.filterMap fun p => p.2.slept := by
  induction ys generalizing k with
  | nil => exact (List.append_nil _).symm
  | cons p ys ih =>
    have first := after_delays (k := k) (within p List.mem_cons_self)
    have rest := ih (k := k.after p) fun q hq => within q (List.mem_cons_of_mem _ hq)
    rw [List.foldl_cons, rest, first, List.append_assoc]
    cases h : p.2.slept with
    | none => simp [h]
    | some ms => simp [h]

theorem foldl_failures (within : OneAttempt ys) :
    k.failures ≤ (ys.foldl Attempts.after k).failures ∧
      (k.failures < (ys.foldl Attempts.after k).failures ↔ Misses k ys) := by
  induction ys using List.reverseRecOn with
  | nil =>
    refine ⟨Nat.le_refl _, ?_⟩
    constructor
    · intro more
      exact absurd more (Nat.lt_irrefl _)
    · rintro ⟨ys₁, o, ys₂, none, _⟩
      simp at none
  | append_singleton ys p ih =>
    have last := after_failures (k := ys.foldl Attempts.after k) (within p (by simp))
    obtain ⟨grows, misses⟩ := ih fun q hq => within q (List.mem_append_left _ hq)
    rw [List.foldl_append, List.foldl_cons, List.foldl_nil, last]
    by_cases here : p.1 = .client false ∧ (ys.foldl Attempts.after k).subscribed = false
    · rw [if_pos here]
      refine ⟨by omega, ?_⟩
      constructor
      · intro _
        refine ⟨ys, p.2, [], ?_, here.2⟩
        rw [← here.1]
      · intro _
        omega
    · rw [if_neg here, misses]
      refine ⟨grows, ?_⟩
      constructor
      · rintro ⟨ys₁, o, ys₂, rfl, off⟩
        exact ⟨ys₁, o, ys₂ ++ [p], by simp, off⟩
      · rintro ⟨ys₁, o, ys₂, cut, off⟩
        cases ys₂ using List.reverseRecOn with
        | nil =>
          obtain ⟨rfl, same⟩ := List.append_inj' cut rfl
          obtain rfl := List.singleton_inj.mp same
          exact absurd ⟨rfl, off⟩ here
        | append_singleton ys₂ q =>
          rw [← List.cons_append, ← List.append_assoc] at cut
          exact ⟨ys₁, o, ys₂, (List.append_inj' cut rfl).1, off⟩

theorem attempts_snoc (tr : List (WorkerAction × WorkerOutput)) (p) :
    attempts (tr ++ [p]) = (attempts tr).after p := by
  rw [attempts, List.foldl_append]
  rfl

theorem run_backs {ok : StreamWorker → WorkerAction → StreamWorker → Prop}
    (run : streamWorker.Run ok .new tr w) : w.Backs (attempts tr) := by
  apply run.history (P := fun tr w => StreamWorker.Backs (attempts tr) w)
  · exact .inl ⟨rfl, rfl, rfl, rfl⟩
  · intro tr t a u o h _ hs
    rw [attempts_snoc]
    exact StreamWorker.backs_step h hs

/-- A failed attempt is still to be slept for. -/
theorem attempts_failed {ok : StreamWorker → WorkerAction → StreamWorker → Prop} {e : HostError}
    {o : WorkerOutput} (run : streamWorker.Run ok .new (tr ++ [(.subscribeReturns (.error e), o)]) w) :
    (attempts (tr ++ [(.subscribeReturns (.error e), o)])).Owes 1 := by
  obtain ⟨v, before, _, hs⟩ := run.last
  have ready := run_backs before
  rw [attempts_snoc]
  have moved : StreamWorker.Moves v (.subscribeReturns (.error e)) w o := StreamWorker.step_moves hs
  cases moved with
  | subscribeReturned here result =>
    simp only [StreamWorker.Backs, here] at ready
    unfold Attempts.after
    dsimp only
    rw [Option.toList_none, List.append_nil]
    exact ready.2.2.fail

/-- All sleeps count when all failures have been slept for. -/
theorem slept_iff {n : Nat} (owes : k.Owes n) (within : OneAttempt ys)
    (paid : (ys.foldl Attempts.after k).Owes 0) :
    (∃ p ∈ ys, ∃ ms, p.2.slept = some ms ∧ 50 ≤ ms) ↔ 0 < n ∨ Misses k ys := by
  obtain ⟨grows, misses⟩ := foldl_failures (k := k) within
  have delays := foldl_delays (k := k) within
  have count := paid.count
  rw [delays, List.length_append] at count
  have before := owes.count
  rw [← misses]
  constructor
  · rintro ⟨p, among, ms, slept, _⟩
    have counted : ms ∈ ys.filterMap fun p => p.2.slept :=
      List.mem_filterMap.mpr ⟨p, among, slept⟩
    have some := List.length_pos_of_mem counted
    omega
  · intro fails
    have some : 0 < (ys.filterMap fun p => p.2.slept).length := by omega
    obtain ⟨ms, among⟩ := List.exists_mem_of_length_pos some
    have counted : ms ∈ (ys.foldl Attempts.after k).delays := by
      rw [delays]
      exact List.mem_append_right _ among
    rw [paid.delays] at counted
    obtain ⟨i, _, rfl⟩ := List.mem_map.mp counted
    obtain ⟨p, there, slept⟩ := List.mem_filterMap.mp among
    exact ⟨p, there, delay i, slept, le_delay i⟩

/-- The sleeps of a worker since its last success are those of an exponential backoff, one for each
failure. Between an attempt and the next one it sleeps exactly if the attempt has failed or no
client has been there for the next. -/
theorem backoff_between_attempts (run : streamWorker.Run Machine.anyStep .new tr w) :
    (∃ n, (attempts tr).delays = (List.range n).map (fun i => min (50 * 2 ^ i) 1000) ∧
      ((attempts tr).failures = n ∨ (attempts tr).failures = n + 1) ∧
      (w.location = .readingClient ∨ w.location = .subscribing → (attempts tr).failures = n)) ∧
    ∀ xs r o ys, tr = xs ++ (.subscribeReturns r, o) :: ys → OneAttempt ys →
      w.location = .subscribing →
      ((∃ p ∈ ys, ∃ ms, p.2.slept = some ms ∧ 50 ≤ ms) ↔
        (∃ e, r = .error e) ∨ Misses (attempts (xs ++ [(.subscribeReturns r, o)])) ys) := by
  have backs := run_backs run
  have asks (here : w.location = .readingClient ∨ w.location = .subscribing) :
      (attempts tr).Owes 0 := by
    unfold StreamWorker.Backs at backs
    rcases here with here | here
    · simp only [here] at backs
      exact backs.2.2
    · simp only [here] at backs
      exact backs.2.2
  refine ⟨⟨(attempts tr).delays.length, ?_, ?_, ?_⟩, ?_⟩
  · exact backs.owes.elim (fun paid => paid.delays) fun due => due.delays
  · exact backs.owes.imp (fun paid => paid.count) fun due => due.count
  · intro here
    exact (asks here).count
  · intro xs r o ys cut within here
    have paid := asks (.inr here)
    have whole : tr = xs ++ [(.subscribeReturns r, o)] ++ ys := by
      rw [cut, List.append_assoc]
      rfl
    rw [whole] at run
    obtain ⟨v, before, _⟩ := run.split
    rw [whole, attempts, List.foldl_append] at paid
    cases r with
    | error e =>
      have slept := slept_iff (attempts_failed before) within paid
      rw [slept]
      constructor
      · intro _
        exact .inl ⟨e, rfl⟩
      · intro _
        exact .inl Nat.one_pos
    | ok subscription =>
      have fresh : attempts (xs ++ [(.subscribeReturns (.ok subscription), o)]) = ⟨true,0,[]⟩ :=
        attempts_snoc xs _
      have owes : (attempts (xs ++ [(.subscribeReturns (.ok subscription), o)])).Owes 0 := by
        rw [fresh]
        exact ⟨rfl, rfl⟩
      have slept := slept_iff owes within paid
      rw [slept]
      simp

end Runs

/-- Behind an attempt that fails, the worker sleeps. -/
theorem backoff_between_attempts_failed :
    ∃ xs r o ys w, streamWorker.Run Machine.anyStep .new (xs ++ (.subscribeReturns r, o) :: ys) w ∧
      w.location = .subscribing ∧ ∃ p ∈ ys, ∃ ms, p.2.slept = some ms ∧ 50 ≤ ms := by
  have run := Machine.run_of_exec_isSome streamWorker Machine.anyStep .new [
    .check, .client true, .check, .subscribeReturns (.error .unexpectedResponse), .check, .check,
    .wake, .check, .client true, .check] (by decide)
  have slept := (backoff_between_attempts run).2 [(.check, {}), (.client true, {}), (.check, {})]
    (.error .unexpectedResponse) {} _ rfl (by decide) rfl
  exact ⟨[(.check, {}), (.client true, {}), (.check, {})], _, _, _, _, run, rfl,
    slept.mpr (.inl ⟨_, rfl⟩)⟩

/-- A daemon that accepts and then leaves a gap is asked again at once. -/
theorem gap_without_backoff :
    ∃ xs r o ys w, streamWorker.Run Machine.anyStep .new (xs ++ (.subscribeReturns r, o) :: ys) w ∧
      OneAttempt ys ∧ w.location = .subscribing ∧ ∀ p ∈ ys, p.2.slept = none := by
  have run := Machine.run_of_exec_isSome streamWorker Machine.anyStep .new [
    .check, .client true, .check, .subscribeReturns (.ok ⟨"s",⟨"s",7,none,[]⟩⟩), .check, .send true,
    .check, .check,
    .readReturns (.ok (.event ⟨PROTOCOL_VERSION,"s",9,.operationCancelled "r"⟩)), .check, .send true,
    .check, .client true, .check] (by decide)
  exact ⟨[(.check, {}), (.client true, {}), (.check, {})], _, _, _, _, run, by decide, rfl,
    by decide⟩

end Kesharon.Host

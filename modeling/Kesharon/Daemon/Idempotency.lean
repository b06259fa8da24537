import Kesharon.Daemon.Operations

namespace Kesharon.Daemon

open Framework Domain Protocol Application

/-- Method and argument of a mutation. -/
def fingerprintOf : RequestMethod → Option MutationFingerprint
  | .openProject path => some (.openProject path)
  | .cancelRequest target => some (.cancelRequest target)
  | .health | .subscribeEvents => none

/-- The calls of `remember_completed`, in order. -/
def completions (tr : List (Action × Output)) : List Completion :=
  tr.filterMap fun p => p.2.remembered

theorem completions_snoc (tr : List (Action × Output)) (a : Action) (o : Output) :
    completions (tr ++ [(a, o)]) = completions tr ++ o.remembered.toList := by
  cases h : o.remembered <;> simp [completions, h]

/-- The completed map and its queue hold exactly the last 256 of a list of completions. -/
abbrev HasLedger (done : List Completion) (s : SessionState) : Prop :=
  Ledger Completion.key Completion.mutation (window IDEMPOTENCY_LIMIT done) s.completedOrder
    s.completed

theorem HasLedger.remember {done : List Completion} {s : SessionState} (h : HasLedger done s)
    (c : Completion) (fresh : c.key ∉ s.completed) :
    HasLedger (done ++ [c]) (s.rememberCompleted c) := by
  have pushed := h.push c fresh
  unfold HasLedger SessionState.rememberCompleted
  simp only [if_neg fresh]
  exact pushed

/-- A key without one of the last 256 completions is not in the map. -/
theorem HasLedger.not_mem {done : List Completion} {s : SessionState} (h : HasLedger done s)
    {k : String} (old : ∀ n c, done[n]? = some c → done.length ≤ n + IDEMPOTENCY_LIMIT → c.key ≠ k) :
    k ∉ s.completed := by
  intro hk
  obtain ⟨c, hc, hck⟩ := (h.mem_iff k).mp hk
  obtain ⟨n, hn, hlen⟩ := mem_window hc
  exact old n c hn hlen hck

/-- The answer to a mutation whose key has a running call: in progress if it is the same
mutation, a conflict otherwise. -/
def refusal (running fp : MutationFingerprint) (requestId : String) : ServerResponse :=
  if running = fp then keyInProgress requestId else idempotencyConflict requestId

/-- The answer to a mutation whose key has completed: the recorded response under the new
request id if it is the same mutation, a conflict otherwise. -/
def Completion.replay (c : Completion) (fp : MutationFingerprint) (requestId : String) :
    ServerResponse :=
  if c.fingerprint = fp then c.response.withRequestId requestId
  else idempotencyConflict requestId

theorem admit_running {s : SessionState} {key requestId : String} {fp running : MutationFingerprint}
    (free : key ∉ s.completed) (h : s.inFlight.lookup key = some running) :
    s.admit key fp requestId = some (refusal running fp requestId) := by
  unfold SessionState.admit refusal
  rw [AList.lookup_eq_none.mpr free, h]
  by_cases he : running = fp <;> simp [he]

theorem admit_completed {s : SessionState} {requestId : String} {fp : MutationFingerprint}
    {c : Completion} (h : s.completed.lookup c.key = some c.mutation) :
    s.admit c.key fp requestId = some (c.replay fp requestId) := by
  unfold SessionState.admit Completion.replay
  rw [h]
  by_cases he : c.fingerprint = fp <;> simp [Completion.mutation, he]

section Runs

variable {σ : Type} [StateRepository σ] {streamId : String} {w₀ w w' : World σ}

/-- A mutation its key decides is answered from the ledger and leaves the whole world as
it is. -/
theorem dispatch_admitted (h : Healthy w) {request : ClientRequest} {key : String}
    {fp : MutationFingerprint} {response : ServerResponse}
    (method : fingerprintOf request.method = some fp)
    (keyed : request.idempotencyKey = some key)
    (admitted : w.state.admit key fp request.requestId = some response) :
    (session σ streamId).step w (.dispatch request) =
      some (w, { response := some response }) := by
  change some (w.dispatch streamId request) = _
  have lock : ¬ w.statePoisoned = true := by simp [h.state_lock]
  unfold World.dispatch
  cases hm : request.method with
  | openProject path =>
    obtain rfl : MutationFingerprint.openProject path = fp := by simpa [hm, fingerprintOf] using method
    simp only [World.beginOpen, keyed, if_neg lock, admitted]
    rfl
  | cancelRequest target =>
    obtain rfl : MutationFingerprint.cancelRequest target = fp := by
      simpa [hm, fingerprintOf] using method
    simp only [World.cancel, keyed, if_neg lock, admitted]
    rfl
  | health => simp [hm, fingerprintOf] at method
  | subscribeEvents => simp [hm, fingerprintOf] at method

theorem outcome_ledger {a : Action} {o : Output} {done : List Completion} (books : Bookkeeping w)
    (h : HasLedger done w.state) (hs : Outcome streamId w a w' o) :
    HasLedger (done ++ o.remembered.toList) w'.state := by
  cases hs with
  | answered request response => simpa using h
  | begun request path key event method keyed notCompleted notInFlight idle next =>
    obtain ⟨sub, chans, he⟩ := (w.register request.requestId path key).emit_frame event
    unfold World.begun
    rw [he, Option.toList_none, List.append_nil]
    exact h
  | cancelled request target key completion method keyed notCompleted notInFlight completes =>
    subst completes
    exact h.remember _ notCompleted
  | moved _ flag call execution running moves =>
    rw [Option.toList_none, List.append_nil]
    exact h
  | finished flag call result repo project payload event response saved completion running here
      settles next completes =>
    subst completes
    obtain ⟨sub, chans, he⟩ := ((w.remove flag call).setRepository repo).emit_frame event
    have busy : call.key ∈ w.state.inFlight :=
      (books.operations.mem_inFlight call.key).mpr ⟨flag, call, running, rfl⟩
    unfold World.finished World.settled
    rw [he]
    exact HasLedger.remember (s := { (w.remove flag call).state with
      sequence := event.sequence, subscriber := sub, project := project }) h
      ⟨call.key,call.fingerprint,call.request.requestId,response⟩ (books.disjoint _ busy)
  | subscribed =>
    unfold World.subscribe
    split_ifs
    · simpa using h
    · simpa using h
  | received ch r c known alive recv => simpa using h
  | hungUp ch known => simpa using h

/-- A completion records the response its step returns. -/
theorem outcome_remembered {a : Action} {o : Output} {c : Completion}
    (hs : Outcome streamId w a w' o) (hc : o.remembered = some c) :
    o.response = some c.response ∧ c.response.requestId = c.requestId := by
  cases hs with
  | cancelled request target key completion method keyed notCompleted notInFlight completes =>
    obtain rfl := Option.some.inj hc
    subst completes
    exact ⟨rfl, rfl⟩
  | finished flag call result repo project payload event response saved completion running here
      settles next completes =>
    obtain rfl := Option.some.inj hc
    subst completes
    refine ⟨rfl, ?_⟩
    cases settles <;> rfl
  | subscribed =>
    unfold World.subscribe at hc
    split_ifs at hc
  | answered => simp at hc
  | begun => simp at hc
  | moved => simp at hc
  | received => simp at hc
  | hungUp => simp at hc

/-- Over a healthy run the ledger holds the last 256 completions. -/
theorem run_ledger {tr : List (Action × Output)} (start : Started w₀)
    (run : (session σ streamId).Run healthyStep w₀ tr w) :
    Healthy w ∧ Bookkeeping w ∧ HasLedger (completions tr) w.state := by
  apply run.history (P := fun tr w => Healthy w ∧ Bookkeeping w ∧ HasLedger (completions tr) w.state)
  · refine ⟨start.healthy, start.bookkeeping, ?_⟩
    obtain ⟨project, task, repo, rfl⟩ := start.init
    exact Ledger.empty _ _
  · intro tr t a u o h hok hs
    obtain ⟨hh, hb, hl⟩ := h
    have outcome := step_outcome hh hok hs
    refine ⟨hok, outcome_bookkeeping hb outcome, ?_⟩
    rw [completions_snoc]
    exact outcome_ledger hb hl outcome

/-- The idempotency ledger of a session. A running key is refused; a key among the last 256
completions replays the recorded response under the retry's request id, or conflicts; neither
changes anything. Every other key passes, and a recorded response is the one first returned. -/
theorem idempotency_ledger {tr : List (Action × Output)} (start : Started w₀)
    (run : (session σ streamId).Run healthyStep w₀ tr w) (request : ClientRequest) (k : String)
    (fp : MutationFingerprint) (method : fingerprintOf request.method = some fp)
    (keyed : request.idempotencyKey = some k) :
    (∀ f call, w.opens.lookup f = some call → call.key = k →
      (session σ streamId).step w (.dispatch request) =
        some (w, { response := some (refusal call.fingerprint fp request.requestId) })) ∧
    (∀ n c, (completions tr)[n]? = some c → c.key = k → (completions tr).length ≤ n + 256 →
      (session σ streamId).step w (.dispatch request) =
        some (w, { response := some (c.replay fp request.requestId) })) ∧
    ((∀ f call, w.opens.lookup f = some call → call.key ≠ k) →
      (∀ n c, (completions tr)[n]? = some c → (completions tr).length ≤ n + 256 → c.key ≠ k) →
      w.state.admit k fp request.requestId = none) ∧
    (∀ p ∈ tr, ∀ c, p.2.remembered = some c →
      p.2.response = some c.response ∧ c.response.requestId = c.requestId) := by
  obtain ⟨hh, hb, hl⟩ := run_ledger start run
  refine ⟨?_, ?_, ?_, ?_⟩
  · intro f call hc hk
    have busy : w.state.inFlight.lookup k = some call.fingerprint :=
      (hb.operations.inFlight_iff k call.fingerprint).mpr ⟨f, call, hc, hk, rfl⟩
    have free : k ∉ w.state.completed :=
      hb.disjoint k ((hb.operations.mem_inFlight k).mpr ⟨f, call, hc, hk⟩)
    exact dispatch_admitted hh method keyed (admit_running free busy)
  · intro n c hn hk hlen
    have entry : w.state.completed.lookup c.key = some c.mutation :=
      (hl.lookup_iff c.key c.mutation).mpr ⟨c, getElem_mem_window hn hlen, rfl, rfl⟩
    subst hk
    exact dispatch_admitted hh method keyed (admit_completed entry)
  · intro idle old
    rw [World.admit_none_iff]
    refine ⟨hl.not_mem old, ?_⟩
    intro busy
    obtain ⟨f, call, hc, hk⟩ := (hb.operations.mem_inFlight k).mp busy
    exact idle f call hc hk
  · intro p hp c hc
    obtain ⟨xs, ys, rfl⟩ := List.append_of_mem hp
    obtain ⟨t, t', before, hok, hs, _⟩ := run.at_step
    have outcome := step_outcome (run_healthy before start.healthy) hok hs
    exact outcome_remembered outcome hc

end Runs

/-- A retry after a failed open, and a conflicting mutation while another open is running. -/
theorem idempotency_ledger_retry :
    ∃ tr w, (session Empty "s").Run healthyStep World.new tr w ∧
      (session Empty "s").step w
        (.dispatch ⟨PROTOCOL_VERSION,"retry",.openProject "/p",some "k"⟩) =
          some (w, { response := some (.failure "retry" .notGitRepository
            "Selected directory is not a Git worktree") }) ∧
      (session Empty "s").step w
        (.dispatch ⟨PROTOCOL_VERSION,"other",.cancelRequest "b",some "l"⟩) =
          some (w, { response := some (idempotencyConflict "other") }) := by
  have run := Machine.run_of_exec_isSome (session Empty "s") healthyStep World.new [
    .dispatch ⟨PROTOCOL_VERSION,"a",.openProject "/p",some "k"⟩,
    .firstCheck 0,
    .inspectReturns 0 (.error (.repository "notGitRepository")),
    .finish 0,
    .dispatch ⟨PROTOCOL_VERSION,"b",.openProject "/q",some "l"⟩] (by decide)
  refine ⟨_, _, run, ?_, ?_⟩
  · exact (idempotency_ledger .new run
      ⟨PROTOCOL_VERSION,"retry",.openProject "/p",some "k"⟩ "k" _ rfl rfl).2.1 0
      ⟨"k",.openProject "/p","a",.failure "a" .notGitRepository
        "Selected directory is not a Git worktree"⟩ (by decide) rfl (by decide)
  · exact (idempotency_ledger .new run
      ⟨PROTOCOL_VERSION,"other",.cancelRequest "b",some "l"⟩ "l" _ rfl rfl).1 1
      ⟨⟨PROTOCOL_VERSION,"b",.openProject "/q",some "l"⟩,"l","/q",1,.entered⟩ rfl rfl

end Kesharon.Daemon

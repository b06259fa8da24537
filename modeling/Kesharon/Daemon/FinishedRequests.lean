import Kesharon.Daemon.Books
import Kesharon.Daemon.Idempotency
import Mathlib.Data.Fintype.EquivFin

namespace Kesharon.Daemon

open Framework Domain Protocol Application

/-- The request ids of a list of completions. -/
abbrev requestIds (done : List Completion) : List String := done.map Completion.requestId

namespace Books

theorem complete_order {b : Books} (h : b.Kept) (c : Completion) :
    (b.complete c).completedRequestOrder =
      enrol IDEMPOTENCY_LIMIT b.completedRequestOrder c.requestId := by
  have first : (b.complete c).completedRequestOrder = window IDEMPOTENCY_LIMIT
      (if c.requestId ∈ b.completedRequests then b.completedRequestOrder
        else b.completedRequestOrder ++ [c.requestId]) := evict_fst _ _ _ _
  have listed := h.requests.mem_iff c.requestId
  rw [first, enrol]
  by_cases hc : c.requestId ∈ b.completedRequests
  · rw [if_pos hc, if_pos (listed.mpr hc), window_of_length_le h.requests.length_le]
  · rw [if_neg hc, if_neg fun hin => hc (listed.mp hin)]

/-- Without a completion the queue stays and no call stops running. -/
theorem step_none {b b' : Books} (step : Step false b none b') :
    b'.completedRequestOrder = b.completedRequestOrder ∧ ∀ r ∈ b.active, r ∈ b'.active := by
  cases step with
  | still => exact ⟨rfl, fun r hr => hr⟩
  | wasted => exact ⟨rfl, fun r hr => hr⟩
  | begun call own idle notCompleted notInFlight =>
    exact ⟨rfl, fun r hr => (AList.mem_insert _).mpr (.inr hr)⟩
  | moved flag call execution running => exact ⟨rfl, fun r hr => hr⟩
  | abandoned flag call running stuck => cases stuck

/-- A completion enrols its request id, and ends at most the call of that request. -/
theorem step_some {b b' : Books} {c : Completion} (h : b.Kept) (step : Step false b (some c) b') :
    b'.completedRequestOrder = enrol IDEMPOTENCY_LIMIT b.completedRequestOrder c.requestId ∧
      ∀ r, r ≠ c.requestId → (r ∈ b'.active ↔ r ∈ b.active) := by
  cases step with
  | completed c _ _ => exact ⟨complete_order h c, fun r _ => Iff.rfl⟩
  | finished flag call c running key requestId clean =>
    have released : (b.release flag call).Kept :=
      ⟨h.operations.finish running, fun k hk => h.disjoint k (AList.mem_erase.mp hk).2,
        h.completed, h.requests⟩
    refine ⟨complete_order released c, ?_⟩
    intro r hr
    change r ∈ b.active.erase call.request.requestId ↔ r ∈ b.active
    rw [AList.mem_erase, ← requestId]
    exact ⟨fun h => h.2, fun h => ⟨hr, h⟩⟩

end Books

/-- Cancel requests under fresh keys for requests that are not running are answered as a client
expects: `AlreadyFinished` for the last 256 completions, `NotFound` for no completion at all. -/
def ReportsFinished {σ : Type} [StateRepository σ] (streamId : String) (done : List Completion)
    (w : World σ) : Prop :=
  ∀ (request : ClientRequest) (key target : String),
    request.method = .cancelRequest target → request.idempotencyKey = some key →
    key ∉ w.state.completed → key ∉ w.state.inFlight → target ∉ w.state.active →
    ((∃ c ∈ window 256 done, c.requestId = target) → ∃ w' o,
      (session σ streamId).step w (.dispatch request) = some (w', o) ∧
        o.response = some (.success request.requestId (.cancellation target .alreadyFinished))) ∧
    ((∀ c ∈ done, c.requestId ≠ target) → ∃ w' o,
      (session σ streamId).step w (.dispatch request) = some (w', o) ∧
        o.response = some (.success request.requestId (.cancellation target .notFound)))

/-- If the completion of a request drops the oldest id of the full queue, then that id is not
carried by one of the last 255 completions, unless it is running again. -/
def Spares {σ : Type} (done : List Completion) (w : World σ) (requestId : String) : Prop :=
  requestId ∉ w.state.completedRequests → w.state.completedRequestOrder.length = 256 →
    ∀ oldest, w.state.completedRequestOrder.head? = some oldest →
      (∃ c ∈ window 255 done, c.requestId = oldest) → oldest ∈ w.state.active

section Runs

variable {σ : Type} [StateRepository σ] {streamId : String} {w₀ u v w : World σ}

omit [StateRepository σ] in
theorem mem_requestIds_window {n : Nat} {done : List Completion} {r : String} :
    r ∈ window n (requestIds done) ↔ ∃ c ∈ window n done, c.requestId = r := by
  have same : window n (requestIds done) = (window n done).map Completion.requestId := by
    rw [window, window, List.length_map, List.map_drop]
  rw [same, List.mem_map]

theorem run_clean {tr : List (Action × Output)}
    (run : (session σ streamId).Run Machine.anyStep u tr w) (clean : w.statePoisoned = false) :
    u.statePoisoned = false := by
  apply run.invariant (I := fun w => w.statePoisoned = false → u.statePoisoned = false) id _ clean
  intro t a v o h _ hs clean
  exact h (World.effect_clean (World.step_effect hs) clean)

/-- The queue of a run is what enrolling its completions one by one gives. -/
theorem run_order {tr : List (Action × Output)} (start : Started w₀)
    (run : (session σ streamId).Run Machine.anyStep w₀ tr w) (clean : w.statePoisoned = false) :
    w.state.completedRequestOrder =
      recent IDEMPOTENCY_LIMIT (requestIds (completions tr)) := by
  obtain ⟨project, task, repo, rfl⟩ := start.init
  induction run with
  | nil => rfl
  | @snoc t u tr a o before allowed hs ih =>
    have clean' := World.effect_clean (World.step_effect hs) clean
    have kept := run_kept (World.init_kept project task repo) before clean'
    have step := World.step_books hs
    have old := ih clean'
    rw [clean'] at step
    rw [completions_snoc, requestIds, List.map_append]
    cases ho : o.remembered with
    | none =>
      rw [ho] at step
      rw [Option.toList_none, List.map_nil, List.append_nil, ← old]
      exact (Books.step_none step).1
    | some c =>
      rw [ho] at step
      rw [Option.toList_some, List.map_singleton, recent_snoc, ← old]
      exact (Books.step_some kept step).1

/-- The ids of recent completions that are not running are in the queue. -/
abbrev Enrolled (done : List Completion) (w : World σ) : Prop :=
  Remembered IDEMPOTENCY_LIMIT (fun r => r ∈ w.state.active) (requestIds done)

/-- A cancel request under a fresh key is executed. -/
theorem cancel_executed (streamId : String) (request : ClientRequest)
    (clean : w.statePoisoned = false) {key target : String} (method : request.method = .cancelRequest target)
    (keyed : request.idempotencyKey = some key) (notCompleted : key ∉ w.state.completed)
    (notInFlight : key ∉ w.state.inFlight) :
    ∃ c : Completion, c.key = key ∧ c.requestId = request.requestId ∧
      c.response = .success request.requestId (.cancellation target (w.cancelTarget target).2) ∧
      (session σ streamId).step w (.dispatch request) =
        some (w.cancelled target c, { response := some c.response, remembered := some c }) := by
  have lock : ¬ w.statePoisoned = true := by simp [clean]
  have admitted := (World.admit_none_iff w.state key (.cancelRequest target)
    request.requestId).mpr ⟨notCompleted, notInFlight⟩
  refine ⟨⟨key,.cancelRequest target,request.requestId,
    .success request.requestId (.cancellation target (w.cancelTarget target).2)⟩, rfl, rfl, rfl, ?_⟩
  change some (w.dispatch streamId request) = _
  unfold World.dispatch
  simp only [method]
  unfold World.cancel
  simp only [keyed, if_neg lock, admitted]
  rfl

/-- What a fresh cancel request for a request that is not running is answered. -/
theorem cancel_idle (streamId : String) (request : ClientRequest)
    (clean : w.statePoisoned = false) {key target : String} (method : request.method = .cancelRequest target)
    (keyed : request.idempotencyKey = some key) (notCompleted : key ∉ w.state.completed)
    (notInFlight : key ∉ w.state.inFlight) (idle : target ∉ w.state.active) :
    ∃ w' o, (session σ streamId).step w (.dispatch request) = some (w', o) ∧
      o.response = some (.success request.requestId (.cancellation target
        (if target ∈ w.state.completedRequests then .alreadyFinished else .notFound))) := by
  have outcome : (w.cancelTarget target).2 =
      if target ∈ w.state.completedRequests then .alreadyFinished else .notFound := by
    simp only [World.cancelTarget, AList.lookup_eq_none.mpr idle]
    split_ifs <;> rfl
  obtain ⟨c, _, _, answer, hs⟩ := cancel_executed streamId request clean method keyed
    notCompleted notInFlight
  rw [outcome] at answer
  exact ⟨_, _, hs, congrArg some answer⟩

omit [StateRepository σ] in
/-- There is always a key that no mutation has. -/
theorem exists_fresh_key (w : World σ) :
    ∃ key, key ∉ w.state.completed ∧ key ∉ w.state.inFlight := by
  obtain ⟨key, hk⟩ := Infinite.exists_notMem_finset
    (w.state.completed.keys.toFinset ∪ w.state.inFlight.keys.toFinset)
  rw [Finset.mem_union, List.mem_toFinset, List.mem_toFinset, not_or] at hk
  exact ⟨key, hk⟩

/-- A session reports its recent completions exactly if their ids are in the queue. -/
theorem reports_iff {tr : List (Action × Output)} (start : Started w₀)
    (run : (session σ streamId).Run Machine.anyStep w₀ tr w) (clean : w.statePoisoned = false) :
    ReportsFinished streamId (completions tr) w ↔ Enrolled (completions tr) w := by
  have order := run_order start run clean
  have listed (r : String) : r ∈ w.state.completedRequests ↔
      r ∈ recent IDEMPOTENCY_LIMIT (requestIds (completions tr)) := by
    obtain ⟨project, task, repo, rfl⟩ := start.init
    rw [← order]
    exact ((run_kept (World.init_kept project task repo) run clean).requests.mem_iff r).symm
  constructor
  · intro h r hr idle
    obtain ⟨key, notCompleted, notInFlight⟩ := exists_fresh_key w
    have answer := (h ⟨PROTOCOL_VERSION,r,.cancelRequest r,some key⟩ key r rfl rfl notCompleted
      notInFlight idle).1 (mem_requestIds_window.mp hr)
    obtain ⟨w', o, hs, ho⟩ := answer
    obtain ⟨v, p, hs', hp⟩ := cancel_idle streamId
      ⟨PROTOCOL_VERSION,r,.cancelRequest r,some key⟩ clean rfl rfl notCompleted notInFlight idle
    rw [hs] at hs'
    obtain ⟨rfl, rfl⟩ := Prod.mk.inj (Option.some.inj hs')
    rw [ho] at hp
    by_contra hn
    rw [if_neg fun hin => hn ((listed r).mp hin)] at hp
    simp [ServerResponse.success] at hp
  · intro h request key target method keyed notCompleted notInFlight idle
    obtain ⟨w', o, hs, ho⟩ := cancel_idle streamId request clean method keyed notCompleted
      notInFlight idle
    constructor
    · intro hc
      have known := (listed target).mpr (h target (mem_requestIds_window.mpr hc) idle)
      rw [if_pos known] at ho
      exact ⟨w', o, hs, ho⟩
    · intro hc
      have unknown : target ∉ w.state.completedRequests := by
        intro hin
        obtain ⟨c, hcm, hct⟩ := List.mem_map.mp (mem_of_mem_recent ((listed target).mp hin))
        exact hc c hcm hct
      rw [if_neg unknown] at ho
      exact ⟨w', o, hs, ho⟩

omit [StateRepository σ] in
theorem spares_iff (done : List Completion) {r : String}
    (listed : r ∈ w.state.completedRequestOrder ↔ r ∈ w.state.completedRequests)
    (bounded : w.state.completedRequestOrder.length ≤ 256) :
    Spares done w r ↔ ∀ oldest,
      expired IDEMPOTENCY_LIMIT w.state.completedRequestOrder r = some oldest →
        oldest ∈ window 255 (requestIds done) → oldest ∈ w.state.active := by
  unfold Spares expired
  by_cases hr : r ∈ w.state.completedRequestOrder
  · have known := listed.mp hr
    constructor
    · intro _ oldest he
      simp [hr] at he
    · intro _ unknown
      exact absurd known unknown
  · have unknown : r ∉ w.state.completedRequests := fun h => hr (listed.mpr h)
    by_cases full : w.state.completedRequestOrder.length = 256
    · have notShort : ¬ w.state.completedRequestOrder.length < IDEMPOTENCY_LIMIT := by
        rw [full]
        exact Nat.lt_irrefl _
      rw [if_neg (by simp [hr, notShort])]
      constructor
      · intro h oldest he hin
        exact h unknown full oldest he (mem_requestIds_window.mp hin)
      · intro h _ _ oldest he hin
        exact h oldest he (mem_requestIds_window.mpr hin)
    · have short : w.state.completedRequestOrder.length < IDEMPOTENCY_LIMIT :=
        Nat.lt_of_le_of_ne bounded full
      constructor
      · intro _ oldest he
        simp [short] at he
      · intro _ _ he
        exact absurd he full

/-- What one step does to the enrolment of recent completions. -/
theorem step_enrolled {tr : List (Action × Output)} {a : Action} {o : Output} (start : Started w₀)
    (run : (session σ streamId).Run Machine.anyStep w₀ tr v)
    (hs : (session σ streamId).step v a = some (w, o)) (clean : w.statePoisoned = false)
    (h : Enrolled (completions tr) v) :
    Enrolled (completions (tr ++ [(a, o)])) w ↔
      ∀ c, o.remembered = some c → Spares (completions tr) v c.requestId := by
  have clean' := World.effect_clean (World.step_effect hs) clean
  have order := run_order start run clean'
  obtain ⟨project, task, repo, rfl⟩ := start.init
  have kept := run_kept (World.init_kept project task repo) run clean'
  have step := World.step_books hs
  rw [clean'] at step
  rw [completions_snoc]
  cases ho : o.remembered with
  | none =>
    rw [ho] at step
    have still := (Books.step_none step).2
    rw [Option.toList_none, List.append_nil]
    constructor
    · intro _ c hc
      cases hc
    · intro _ r hr idle
      exact h r hr fun running => idle (still r running)
  | some c =>
    rw [ho] at step
    have same := (Books.step_some kept step).2
    have one : Remembered IDEMPOTENCY_LIMIT (fun r => r ∈ w.state.active) _ ↔ _ :=
      remembered_snoc (by decide) h same
    rw [← order] at one
    have spares := spares_iff (completions tr) (kept.requests.mem_iff c.requestId)
      kept.requests.length_le
    rw [Option.toList_some, Enrolled, requestIds, List.map_append, List.map_singleton, one]
    constructor
    · intro h' d hd
      obtain rfl := Option.some.inj hd
      exact spares.mpr h'
    · intro h'
      exact spares.mp (h' c rfl)

/-- A session whose lock is poisoned reports nothing. -/
theorem reports_clean {done : List Completion} (h : ReportsFinished streamId done w) :
    w.statePoisoned = false := by
  obtain ⟨key, notCompleted, notInFlight⟩ := exists_fresh_key w
  obtain ⟨target, fresh⟩ := Infinite.exists_notMem_finset
    (w.state.active.keys.toFinset ∪ (requestIds done).toFinset)
  rw [Finset.mem_union, List.mem_toFinset, List.mem_toFinset, not_or] at fresh
  have never : ∀ c ∈ done, c.requestId ≠ target := by
    intro c among same
    exact fresh.2 (List.mem_map.mpr ⟨c, among, same⟩)
  obtain ⟨w', o, hs, answer⟩ := (h ⟨PROTOCOL_VERSION,"r",.cancelRequest target,some key⟩ key target
    rfl rfl notCompleted notInFlight fresh.1).2 never
  by_contra poisoned
  have stuck : w.statePoisoned = true := by simpa using poisoned
  have refused : w.cancel ⟨PROTOCOL_VERSION,"r",.cancelRequest target,some key⟩ target = (w', o) :=
    Option.some.inj hs
  unfold World.cancel at refused
  dsimp only at refused
  rw [if_pos stuck] at refused
  obtain ⟨_, rfl⟩ := Prod.mk.inj refused
  simp [ServerResponse.success, internalError, ServerResponse.failure] at answer

/-- A session reports its recently finished requests all along a run exactly if its lock is never
poisoned and every completion of the run spares them. -/
theorem finished_requests_reported {tr : List (Action × Output)} (start : Started w₀)
    (run : (session σ streamId).Run Machine.anyStep w₀ tr w) :
    (∀ tr₁ tr₂ u, tr = tr₁ ++ tr₂ → (session σ streamId).Run Machine.anyStep w₀ tr₁ u →
      ReportsFinished streamId (completions tr₁) u) ↔
    w.statePoisoned = false ∧ ∀ tr₁ tr₂ u a o c, tr = tr₁ ++ (a, o) :: tr₂ →
      (session σ streamId).Run Machine.anyStep w₀ tr₁ u → o.remembered = some c →
        Spares (completions tr₁) u c.requestId := by
  constructor
  · intro h
    have clean := reports_clean (h tr [] w (List.append_nil tr).symm run)
    refine ⟨clean, ?_⟩
    intro tr₁ tr₂ u a o c cut before ho
    rw [cut] at run
    obtain ⟨t, v, before', _, hs, after⟩ := run.at_step
    obtain ⟨_, rfl⟩ := before'.unique before rfl
    have cleanV := run_clean after clean
    have cleanT := World.effect_clean (World.step_effect hs) cleanV
    have upTo : (session σ streamId).Run Machine.anyStep w₀ (tr₁ ++ [(a, o)]) v :=
      .snoc before' trivial hs
    have first := (reports_iff start before' cleanT).mp (h tr₁ _ t cut before')
    have second := (reports_iff start upTo cleanV).mp
      (h (tr₁ ++ [(a, o)]) tr₂ v (by rw [cut, List.append_assoc]; rfl) upTo)
    exact (step_enrolled start before' hs cleanV first).mp second c ho
  · rintro ⟨clean, spares⟩ tr₁
    induction tr₁ using List.reverseRecOn with
    | nil =>
      intro tr₂ u cut before
      rw [cut] at run
      obtain ⟨t, before', after⟩ := run.split
      obtain ⟨_, rfl⟩ := before'.unique before rfl
      rw [reports_iff start before (run_clean after clean)]
      intro r hr
      simp [completions] at hr
    | append_singleton tr₁ p ih =>
      obtain ⟨a, o⟩ := p
      intro tr₂ u cut before
      have cut' : tr = tr₁ ++ (a, o) :: tr₂ := by
        rw [cut, List.append_assoc]
        rfl
      have whole := run
      rw [cut] at whole
      obtain ⟨t, before', after⟩ := whole.split
      obtain ⟨_, rfl⟩ := before'.unique before rfl
      have cleanU := run_clean after clean
      obtain ⟨v, first, _, hs⟩ := before.last
      have cleanV := World.effect_clean (World.step_effect hs) cleanU
      have old := (reports_iff start first cleanV).mp (ih _ v cut' first)
      rw [reports_iff start before cleanU, step_enrolled start first hs cleanU old]
      intro c ho
      exact spares tr₁ tr₂ v a o c cut' first ho

/-- Cancel requests for one target, each with a key and a request id. -/
def cancelRequests (target : String) (pairs : List (String × String)) : List Action :=
  pairs.map fun p => .dispatch ⟨PROTOCOL_VERSION,p.2,.cancelRequest target,some p.1⟩

/-- Cancel requests under different keys complete with their request ids, in order. -/
theorem cancels_run (σ : Type) [StateRepository σ] (streamId target : String) {pairs : List (String × String)}
    (distinct : (pairs.map Prod.fst).Nodup) :
    ∃ tr w, (session σ streamId).Run Machine.anyStep World.new tr w ∧
      tr.map Prod.fst = cancelRequests target pairs ∧
      requestIds (completions tr) = pairs.map Prod.snd ∧ w.statePoisoned = false ∧
      w.state.active = ∅ ∧ w.state.inFlight = ∅ ∧
      ∀ k ∈ w.state.completed, k ∈ pairs.map Prod.fst := by
  induction pairs using List.reverseRecOn with
  | nil =>
    refine ⟨[], World.new, .nil _, rfl, rfl, rfl, rfl, rfl, ?_⟩
    intro k hk
    exact absurd hk (AList.notMem_empty k)
  | append_singleton pairs p ih =>
    obtain ⟨key, r⟩ := p
    rw [List.map_append, List.nodup_append] at distinct
    obtain ⟨before, _, apart⟩ := distinct
    obtain ⟨tr, w, run, actions, ids, clean, active, inFlight, keys⟩ := ih before
    have notCompleted : key ∉ w.state.completed :=
      fun hk => apart key (keys key hk) key (List.mem_singleton_self key) rfl
    have notInFlight : key ∉ w.state.inFlight := by
      rw [inFlight]
      exact AList.notMem_empty key
    obtain ⟨c, hk, hr, _, hs⟩ := cancel_executed streamId
      ⟨PROTOCOL_VERSION,r,.cancelRequest target,some key⟩ clean rfl rfl notCompleted notInFlight
    refine ⟨_, _, run.snoc trivial hs, ?_, ?_, clean, active, inFlight, ?_⟩
    · rw [List.map_append, actions, cancelRequests, cancelRequests, List.map_append]
      rfl
    · rw [completions_snoc, requestIds, List.map_append, Option.toList_some, List.map_singleton,
        List.map_append, hr]
      exact congrArg (· ++ [r]) ids
    · intro k hin
      rw [List.map_append, List.mem_append, List.map_singleton, List.mem_singleton]
      rcases mem_rememberCompleted hin with rfl | hin
      · exact .inr hk
      · exact .inl (keys k hin)

end Runs

/-- After one completion its id is reported. -/
theorem finished_requests_reported_once :
    ∃ tr w, (session Empty "s").Run Machine.anyStep World.new tr w ∧
      requestIds (completions tr) = ["r"] ∧ ReportsFinished "s" (completions tr) w := by
  have run := Machine.run_of_exec_isSome (session Empty "s") Machine.anyStep World.new
    [.dispatch ⟨PROTOCOL_VERSION,"r",.cancelRequest "x",some "k"⟩] (by decide)
  refine ⟨_, _, run, by decide, ?_⟩
  refine (finished_requests_reported .new run).mpr ⟨by decide, ?_⟩ _ [] _
    (List.append_nil _).symm run
  intro tr₁ tr₂ u a o c cut before ho unknown full oldest he
  cases tr₁ with
  | nil =>
    have empty : (session Empty "s").Run Machine.anyStep World.new [] World.new := .nil _
    obtain ⟨_, rfl⟩ := before.unique empty rfl
    cases he
  | cons p tr₁ =>
    have one := congrArg List.length cut
    rw [List.length_append, List.length_cons, List.length_cons] at one
    change 1 = _ at one
    omega

/-- Names that are all different. -/
def nthName (n : Nat) : String := String.ofList (List.replicate (n + 1) 'r')

theorem nthName_injective : Function.Injective nthName := by
  intro m n h
  have same := congrArg List.length (String.ofList_injective h)
  rw [List.length_replicate, List.length_replicate] at same
  omega

/-- Keys and request ids of 258 cancel requests, of which the last but one carries the request
id of the first again. -/
def reusing : List (String × String) :=
  (List.range 258).map fun n => (nthName n, if n = 256 then nthName 0 else nthName n)

theorem reusing_keys : (reusing.map Prod.fst).Nodup := by
  rw [reusing, List.map_map]
  exact List.nodup_range.map nthName_injective

theorem reusing_ids :
    reusing.map Prod.snd = (List.range 256).map nthName ++ [nthName 0] ++ [nthName 257] := by
  have first : ((List.range 256).map fun n => if n = 256 then nthName 0 else nthName n) =
      (List.range 256).map nthName := by
    apply List.map_congr_left
    intro n hn
    rw [if_neg (Nat.ne_of_lt (List.mem_range.mp hn))]
  have last : List.range 258 = List.range 256 ++ [256] ++ [257] := by
    rw [← List.range_succ, ← List.range_succ]
  rw [reusing, List.map_map, last, List.map_append, List.map_append]
  exact congrArg (· ++ [nthName 0] ++ [nthName 257]) first

/-- The first id drops out of the queue although it completed again just before. -/
theorem reusing_forgets : nthName 0 ∉ recent IDEMPOTENCY_LIMIT (reusing.map Prod.snd) := by
  have ids : (List.range 256).map nthName = nthName 0 :: ((List.range 255).map fun n => nthName (n + 1)) := by
    rw [List.range_succ_eq_map, List.map_cons, List.map_map]
    rfl
  have distinct : ((List.range 256).map nthName).Nodup := List.nodup_range.map nthName_injective
  have full : recent IDEMPOTENCY_LIMIT ((List.range 256).map nthName) =
      (List.range 256).map nthName := by
    rw [recent_of_nodup distinct, window_of_length_le]
    rw [List.length_map, List.length_range]
    exact Nat.le_refl _
  have known : nthName 0 ∈ (List.range 256).map nthName := by
    rw [ids]
    exact List.mem_cons_self
  have new : nthName 257 ∉ (List.range 256).map nthName := by
    intro h
    obtain ⟨n, hn, same⟩ := List.mem_map.mp h
    have lt := List.mem_range.mp hn
    have eq := nthName_injective same
    omega
  rw [reusing_ids, recent_snoc, recent_snoc, full, enrol, enrol, if_pos known, if_neg new, ids,
    List.cons_append, window_cons (by simp [IDEMPOTENCY_LIMIT])]
  rw [ids] at distinct
  intro h
  rcases List.mem_append.mp ((window_sublist _ _).subset h) with h | h
  · exact (List.nodup_cons.mp distinct).1 h
  · exact absurd (nthName_injective (List.mem_singleton.mp h)) (by decide)

/-- A request that completed two completions ago is reported as not found. -/
theorem reused_request_forgotten :
    ∃ tr w w' o, (session Empty "s").Run Machine.anyStep World.new tr w ∧
      tr.map Prod.fst = cancelRequests "x" reusing ∧ w.statePoisoned = false ∧
      (∃ c ∈ window 2 (completions tr), c.requestId = nthName 0) ∧
      nthName 0 ∉ w.state.active ∧ nthName 258 ∉ w.state.completed ∧
      nthName 258 ∉ w.state.inFlight ∧
      (session Empty "s").step w (.dispatch ⟨PROTOCOL_VERSION,nthName 258,
        .cancelRequest (nthName 0),some (nthName 258)⟩) = some (w', o) ∧
      o.response = some (.success (nthName 258) (.cancellation (nthName 0) .notFound)) := by
  obtain ⟨tr, w, run, actions, ids, clean, active, inFlight, keys⟩ :=
    cancels_run Empty "s" "x" reusing_keys
  have idle : nthName 0 ∉ w.state.active := by
    rw [active]
    exact AList.notMem_empty _
  have notInFlight : nthName 258 ∉ w.state.inFlight := by
    rw [inFlight]
    exact AList.notMem_empty _
  have notCompleted : nthName 258 ∉ w.state.completed := by
    intro h
    have hin := keys _ h
    rw [reusing, List.map_map] at hin
    obtain ⟨n, hn, same⟩ := List.mem_map.mp hin
    have lt := List.mem_range.mp hn
    have eq := nthName_injective same
    omega
  have unknown : nthName 0 ∉ w.state.completedRequests := by
    have kept := run_kept (World.init_kept none none none) run clean
    intro h
    have listed := (kept.requests.mem_iff (nthName 0)).mpr h
    have order : w.books.completedRequestOrder = _ := run_order .new run clean
    rw [order, ids] at listed
    exact reusing_forgets listed
  obtain ⟨w', o, hs, answer⟩ := cancel_idle "s"
    ⟨PROTOCOL_VERSION,nthName 258,.cancelRequest (nthName 0),some (nthName 258)⟩ clean rfl rfl
    notCompleted notInFlight idle
  rw [if_neg unknown] at answer
  refine ⟨tr, w, w', o, run, actions, clean, ?_, idle, notCompleted, notInFlight, hs, answer⟩
  rw [← mem_requestIds_window, ids, reusing_ids, window_snoc (by decide), window_snoc (by decide)]
  simp

end Kesharon.Daemon

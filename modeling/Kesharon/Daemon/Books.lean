import Kesharon.Daemon.CallEffects
import Kesharon.Daemon.Operations
import Kesharon.Framework.Retention

namespace Kesharon.Daemon

open Framework Domain Protocol Application

/-- The collections a session keeps, with the calls in progress that they are about. -/
@[ext] structure Books where
  flagCount : Nat
  opens : Assoc FlagId OpenCall
  active : Assoc String ActiveOperation
  inFlight : Assoc String MutationFingerprint
  completed : Assoc String CompletedMutation
  completedOrder : List String
  completedRequests : Finset String
  completedRequestOrder : List String

namespace Books

/-- A call begins with the next flag. -/
def begin (b : Books) (call : OpenCall) : Books :=
  { b with
    flagCount := b.flagCount + 1
    opens := b.opens.insert b.flagCount call
    active := b.active.insert call.request.requestId ⟨b.flagCount⟩
    inFlight := b.inFlight.insert call.key call.fingerprint }

/-- A call takes its entries back. -/
def release (b : Books) (flag : FlagId) (call : OpenCall) : Books :=
  { b with
    opens := b.opens.erase flag
    active := b.active.erase call.request.requestId
    inFlight := b.inFlight.erase call.key }

/-- Enter a completion, and evict. -/
def complete (b : Books) (c : Completion) : Books :=
  let order := if c.key ∈ b.completed then b.completedOrder else b.completedOrder ++ [c.key]
  let completed := evict IDEMPOTENCY_LIMIT (fun m k => m.erase k) order
    (b.completed.insert c.key c.mutation)
  let requestOrder := if c.requestId ∈ b.completedRequests then b.completedRequestOrder
    else b.completedRequestOrder ++ [c.requestId]
  let requests := evict IDEMPOTENCY_LIMIT (fun m k => m.erase k) requestOrder
    (insert c.requestId b.completedRequests)
  { b with
    completed := completed.2
    completedOrder := completed.1
    completedRequests := requests.2
    completedRequestOrder := requests.1 }

/-- What can happen to the books, with the completion entered. A call that finds the session's
lock poisoned leaves its entries behind. -/
inductive Step (poisoned : Bool) (b : Books) : Option Completion → Books → Prop where
  | still : Step poisoned b none b
  | wasted : Step poisoned b none { b with flagCount := b.flagCount + 1 }
  | begun (call : OpenCall) (own : call.cancellation = b.flagCount)
      (idle : call.request.requestId ∉ b.active) (notCompleted : call.key ∉ b.completed)
      (notInFlight : call.key ∉ b.inFlight) : Step poisoned b none (b.begin call)
  | moved (flag : FlagId) (call : OpenCall) (execution : Execution)
      (running : b.opens.lookup flag = some call) :
      Step poisoned b none
        { b with opens := b.opens.insert flag { call with execution := execution } }
  | completed (c : Completion) (notCompleted : c.key ∉ b.completed)
      (notInFlight : c.key ∉ b.inFlight) : Step poisoned b (some c) (b.complete c)
  | finished (flag : FlagId) (call : OpenCall) (c : Completion)
      (running : b.opens.lookup flag = some call) (key : c.key = call.key)
      (requestId : c.requestId = call.request.requestId) (clean : poisoned = false) :
      Step poisoned b (some c) ((b.release flag call).complete c)
  | abandoned (flag : FlagId) (call : OpenCall) (running : b.opens.lookup flag = some call)
      (stuck : poisoned = true) : Step poisoned b none { b with opens := b.opens.erase flag }

/-- The calls in progress have their entries, and share no key. -/
structure Entered (b : Books) : Prop where
  active : ∀ f c, b.opens.lookup f = some c →
    f < b.flagCount ∧ b.active.lookup c.request.requestId = some ⟨f⟩
  inFlight : ∀ f c, b.opens.lookup f = some c → b.inFlight.lookup c.key = some c.fingerprint
  key_unique : ∀ f f' c c', b.opens.lookup f = some c → b.opens.lookup f' = some c' →
    c.key = c'.key → f = f'

/-- The calls in progress and their entries correspond, no key is both running and completed,
and the two queues list their collections. -/
structure Kept (b : Books) : Prop where
  operations : Operations b.flagCount b.opens b.active b.inFlight
  disjoint : ∀ k ∈ b.inFlight, k ∉ b.completed
  completed : Queued IDEMPOTENCY_LIMIT b.completedOrder b.completed
  requests : Queued IDEMPOTENCY_LIMIT b.completedRequestOrder b.completedRequests

theorem complete_completed (b : Books)
    (h : Queued IDEMPOTENCY_LIMIT b.completedOrder b.completed) (c : Completion) :
    Queued IDEMPOTENCY_LIMIT (b.complete c).completedOrder (b.complete c).completed :=
  h.remember (fun _ _ _ => AList.mem_erase) c.key (fun _ => AList.mem_insert _)

theorem complete_requests (b : Books)
    (h : Queued IDEMPOTENCY_LIMIT b.completedRequestOrder b.completedRequests) (c : Completion) :
    Queued IDEMPOTENCY_LIMIT (b.complete c).completedRequestOrder
      (b.complete c).completedRequests :=
  h.remember (fun _ _ _ => Finset.mem_erase) c.requestId (fun _ => Finset.mem_insert)

theorem mem_complete {b : Books} {c : Completion} {k : String}
    (h : k ∈ (b.complete c).completed) : k = c.key ∨ k ∈ b.completed := by
  have hm := mem_of_mem_evict _ _ _ _ h
  rwa [AList.mem_insert] at hm

theorem step_kept {b b' : Books} {done : Option Completion} (h : b.Kept)
    (step : Step false b done b') : b'.Kept := by
  cases step with
  | still => exact h
  | wasted => exact ⟨h.operations.mono (Nat.le_succ _), h.disjoint, h.completed, h.requests⟩
  | begun call own idle notCompleted notInFlight =>
    refine ⟨h.operations.begin call own idle notInFlight, ?_, h.completed, h.requests⟩
    intro k hk
    rcases (AList.mem_insert _).mp hk with rfl | hk
    · exact notCompleted
    · exact h.disjoint k hk
  | moved flag call execution running =>
    exact ⟨h.operations.move running execution, h.disjoint, h.completed, h.requests⟩
  | completed c notCompleted notInFlight =>
    refine ⟨h.operations, ?_, complete_completed b h.completed c, complete_requests b h.requests c⟩
    intro k hk hc
    rcases mem_complete hc with rfl | hc
    · exact notInFlight hk
    · exact h.disjoint k hk hc
  | finished flag call c running key requestId clean =>
    have completed := complete_completed (b.release flag call) h.completed c
    have requests := complete_requests (b.release flag call) h.requests c
    refine ⟨h.operations.finish running, ?_, completed, requests⟩
    intro k hk hc
    obtain ⟨hne, hk⟩ := AList.mem_erase.mp hk
    rcases mem_complete hc with rfl | hc
    · exact hne key
    · exact h.disjoint k hk hc
  | abandoned flag call running stuck => cases stuck

theorem Entered.begin {b : Books} (h : b.Entered) {call : OpenCall}
    (idle : call.request.requestId ∉ b.active) (free : call.key ∉ b.inFlight) :
    (b.begin call).Entered := by
  have other {f : FlagId} {c : OpenCall} (hc : b.opens.lookup f = some c) :
      c.request.requestId ≠ call.request.requestId ∧ c.key ≠ call.key := by
    constructor
    · intro he
      exact idle (AList.lookup_isSome.mp (by rw [← he, (h.active f c hc).2]; rfl))
    · intro he
      exact free (AList.lookup_isSome.mp (by rw [← he, h.inFlight f c hc]; rfl))
  refine ⟨?_, ?_, ?_⟩
  · intro f c hc
    change (b.opens.insert b.flagCount call).lookup f = some c at hc
    change f < b.flagCount + 1 ∧
      (b.active.insert call.request.requestId ⟨b.flagCount⟩).lookup c.request.requestId = _
    rw [Assoc.lookup_insert_ite] at hc ⊢
    split_ifs at hc with hf
    · obtain rfl := Option.some.inj hc
      rw [if_pos rfl, hf]
      exact ⟨Nat.lt_succ_self _, rfl⟩
    · rw [if_neg (other hc).1]
      exact ⟨Nat.lt_succ_of_lt (h.active f c hc).1, (h.active f c hc).2⟩
  · intro f c hc
    change (b.opens.insert b.flagCount call).lookup f = some c at hc
    change (b.inFlight.insert call.key call.fingerprint).lookup c.key = _
    rw [Assoc.lookup_insert_ite] at hc ⊢
    split_ifs at hc with hf
    · obtain rfl := Option.some.inj hc
      rw [if_pos rfl]
    · rw [if_neg (other hc).2]
      exact h.inFlight f c hc
  · intro f f' c c' hc hc' same
    change (b.opens.insert b.flagCount call).lookup f = some c at hc
    change (b.opens.insert b.flagCount call).lookup f' = some c' at hc'
    rw [Assoc.lookup_insert_ite] at hc hc'
    split_ifs at hc hc' with hf hf'
    · rw [hf, hf']
    · obtain rfl := Option.some.inj hc
      exact absurd same.symm (other hc').2
    · obtain rfl := Option.some.inj hc'
      exact absurd same (other hc).2
    · exact h.key_unique f f' c c' hc hc' same

theorem Entered.move {b : Books} (h : b.Entered) {flag : FlagId} {call : OpenCall}
    (running : b.opens.lookup flag = some call) (execution : Execution) :
    Entered { b with opens := b.opens.insert flag { call with execution := execution } } := by
  refine ⟨?_, ?_, ?_⟩
  · intro f c hc
    obtain ⟨d, hd, request, _⟩ := Operations.lookup_move running hc
    rw [← request]
    exact h.active f d hd
  · intro f c hc
    obtain ⟨d, hd, _, key, path, _⟩ := Operations.lookup_move running hc
    have fingerprint : d.fingerprint = c.fingerprint := by
      rw [OpenCall.fingerprint, path]
      rfl
    rw [← key, ← fingerprint]
    exact h.inFlight f d hd
  · intro f f' c c' hc hc' same
    obtain ⟨d, hd, _, key, _⟩ := Operations.lookup_move running hc
    obtain ⟨d', hd', _, key', _⟩ := Operations.lookup_move running hc'
    exact h.key_unique f f' d d' hd hd' (by rw [key, key', same])

theorem Entered.release {b : Books} (h : b.Entered) {flag : FlagId} {call : OpenCall}
    (running : b.opens.lookup flag = some call) : (b.release flag call).Entered := by
  refine ⟨?_, ?_, ?_⟩
  · intro f d hd
    obtain ⟨hf, hd⟩ := Assoc.lookup_erase_eq_some.mp hd
    have entry := h.active f d hd
    refine ⟨entry.1, Assoc.lookup_erase_eq_some.mpr ⟨?_, entry.2⟩⟩
    intro he
    have own := (h.active flag call running).2
    rw [← he, entry.2] at own
    exact hf (congrArg ActiveOperation.cancellation (Option.some.inj own))
  · intro f d hd
    obtain ⟨hf, hd⟩ := Assoc.lookup_erase_eq_some.mp hd
    refine Assoc.lookup_erase_eq_some.mpr ⟨?_, h.inFlight f d hd⟩
    intro he
    exact hf (h.key_unique f flag d call hd running he)
  · intro f f' d d' hd hd' same
    exact h.key_unique f f' d d' (Assoc.lookup_erase_eq_some.mp hd).2
      (Assoc.lookup_erase_eq_some.mp hd').2 same

/-- The calls keep their entries even where the lock is poisoned. -/
theorem step_entered {b b' : Books} {poisoned : Bool} {done : Option Completion} (h : b.Entered)
    (step : Step poisoned b done b') : b'.Entered := by
  cases step with
  | still => exact h
  | wasted =>
    exact ⟨fun f c hc => ⟨Nat.lt_succ_of_lt (h.active f c hc).1, (h.active f c hc).2⟩, h.inFlight,
      h.key_unique⟩
  | begun call own idle notCompleted notInFlight => exact h.begin idle notInFlight
  | moved flag call execution running => exact h.move running execution
  | completed c notCompleted notInFlight => exact ⟨h.active, h.inFlight, h.key_unique⟩
  | finished flag call c running key requestId clean =>
    have kept := h.release running
    exact ⟨kept.active, kept.inFlight, kept.key_unique⟩
  | abandoned flag call running stuck =>
    have before {f : FlagId} {d : OpenCall} (hd : (b.opens.erase flag).lookup f = some d) :
        b.opens.lookup f = some d := (Assoc.lookup_erase_eq_some.mp hd).2
    exact ⟨fun f d hd => h.active f d (before hd), fun f d hd => h.inFlight f d (before hd),
      fun f f' d d' hd hd' => h.key_unique f f' d d' (before hd) (before hd')⟩

end Books

namespace World

variable {σ : Type}

/-- The books of a session. -/
def books (w : World σ) : Books where
  flagCount := w.flagCount
  opens := w.opens
  active := w.state.active
  inFlight := w.state.inFlight
  completed := w.state.completed
  completedOrder := w.state.completedOrder
  completedRequests := w.state.completedRequests
  completedRequestOrder := w.state.completedRequestOrder

theorem emitLocked_books {streamId : String} {w w' : World σ} {payload : DaemonEventPayload}
    {event : DaemonEvent} (h : w.emitLocked streamId payload = .ok (w', event)) :
    w'.books = w.books := by
  obtain ⟨_, sequence, subscriber, channels, rfl⟩ := emitLocked_frame h
  rfl

theorem emitAndRespond_books {streamId : String} {w : World σ} {requestId : String}
    {payload : DaemonEventPayload} {after : World σ → World σ} {response : ServerResponse}
    (keeps : ∀ v, (after v).books = v.books) :
    (w.emitAndRespond streamId requestId payload after response).world.books = w.books := by
  unfold emitAndRespond
  cases he : w.emitLocked streamId payload with
  | error e => rfl
  | ok p =>
    obtain ⟨w', event⟩ := p
    exact (keeps w').trans (emitLocked_books he)

theorem settle_books [StateRepository σ] (streamId : String) (w : World σ) (requestId : String)
    (result : Except ApplicationError Project) :
    (w.settle streamId requestId result).1.world.books = w.books := by
  have how := settle_settles streamId w requestId result
  generalize (w.settle streamId requestId result).1 = settled at how ⊢
  cases how with
  | locked => rfl
  | @emitted repo response payload after verdict project =>
    have keeps (v : World σ) : (after v).books = v.books := by
      obtain ⟨p, same⟩ := project v
      rw [same]
      rfl
    exact emitAndRespond_books (w := w.setRepository repo) keeps

theorem beginOpen_books (streamId : String) (w : World σ) (request : ClientRequest)
    (path : String) :
    Books.Step w.statePoisoned w.books (w.beginOpen streamId request path).2.remembered
      (w.beginOpen streamId request path).1.books := by
  unfold beginOpen
  cases request.idempotencyKey with
  | none => exact .still
  | some key =>
    dsimp only
    by_cases hp : w.statePoisoned = true
    · rw [if_pos hp]
      exact .still
    · rw [if_neg hp]
      cases ha : w.state.admit key (.openProject path) request.requestId with
      | some response => exact .still
      | none =>
        obtain ⟨notCompleted, notInFlight⟩ := (admit_none_iff _ _ _ _).mp ha
        dsimp only
        by_cases hr : request.requestId ∈ w.state.active
        · rw [if_pos hr]
          exact .still
        · rw [if_neg hr]
          cases he : (w.register request.requestId path key).emitLocked streamId
              (.operationStarted request.requestId .openProject) with
          | error e =>
            have back : (w.state.active.insert request.requestId ⟨w.flagCount⟩).erase
                request.requestId = w.state.active := Assoc.erase_insert hr _
            have back' : (w.state.inFlight.insert key (.openProject path)).erase key =
                w.state.inFlight := Assoc.erase_insert notInFlight _
            have same : Books.Step w.statePoisoned w.books none
                { w.books with flagCount := w.flagCount + 1 } := .wasted
            unfold books at same ⊢
            simpa only [answer, register, back, back'] using same
          | ok p =>
            obtain ⟨w', event⟩ := p
            obtain ⟨_, sequence, sub, chans, rfl⟩ := emitLocked_frame he
            exact .begun ⟨request,key,path,w.flagCount,.entered⟩ rfl hr notCompleted notInFlight

theorem cancel_books (w : World σ) (request : ClientRequest) (target : String) :
    Books.Step w.statePoisoned w.books (w.cancel request target).2.remembered
      (w.cancel request target).1.books := by
  unfold cancel
  cases request.idempotencyKey with
  | none => exact .still
  | some key =>
    dsimp only
    split_ifs with hp
    · exact .still
    · cases ha : w.state.admit key (.cancelRequest target) request.requestId with
      | some response => exact .still
      | none =>
        obtain ⟨notCompleted, notInFlight⟩ := (admit_none_iff _ _ _ _).mp ha
        exact .completed _ notCompleted notInFlight

theorem finishOpen_books [StateRepository σ] (streamId : String) (w : World σ) {flag : FlagId}
    {call : OpenCall} (running : w.opens.lookup flag = some call)
    (result : Except ApplicationError Project) :
    Books.Step w.statePoisoned w.books (w.finishOpen streamId flag call result).2.remembered
      (w.finishOpen streamId flag call result).1.books := by
  unfold finishOpen
  split_ifs with hp
  · exact .abandoned flag call running hp
  · have clean : w.statePoisoned = false := by simpa using hp
    have settled := settle_books streamId (w.remove flag call) call.request.requestId result
    have step : Books.Step w.statePoisoned w.books _
        ((w.books.release flag call).complete ⟨call.key,call.fingerprint,call.request.requestId,
          ((w.remove flag call).settle streamId call.request.requestId result).1.response⟩) :=
      .finished flag call _ running rfl rfl clean
    have same : w.books.release flag call = (w.remove flag call).books := rfl
    rw [same, ← settled] at step
    exact step

/-- Every step of a session is a step of its books. -/
theorem step_books [StateRepository σ] {streamId : String} {w w' : World σ} {a : Action}
    {o : Output} (hs : w.step streamId a = some (w', o)) :
    Books.Step w.statePoisoned w.books o.remembered w'.books := by
  cases step_stepped hs with
  | dispatched request =>
    unfold dispatch
    cases request.method with
    | health => exact .still
    | subscribeEvents => exact .still
    | openProject path => exact beginOpen_books streamId w request path
    | cancelRequest target => exact cancel_books w request target
  | moved _ flag call execution running moves => exact .moved flag call execution running
  | finished flag call result running returned => exact finishOpen_books streamId w running result
  | subscribed =>
    unfold subscribe
    split_ifs <;> exact .still
  | received ch r c known alive recv => exact .still
  | hungUp ch known => exact .still
  | statePoisoned => exact .still
  | repositoryPoisoned => exact .still

theorem effect_clean {w w' : World σ} {a : Action} {o : Output} (effect : CallEffect w a w' o)
    (clean : w'.statePoisoned = false) : w.statePoisoned = false := by
  cases effect with
  | unrelated same _ => rw [← same.statePoisoned, clean]
  | poisoned _ => cases clean
  | begun _ _ _ _ _ _ _ _ _ statePoisoned => rw [← statePoisoned, clean]
  | undone _ _ _ _ _ _ _ _ statePoisoned => rw [← statePoisoned, clean]
  | flagged _ _ _ _ _ _ _ _ _ _ _ _ _ _ _ statePoisoned => rw [← statePoisoned, clean]
  | moved _ _ _ _ _ => exact clean
  | finished _ _ _ _ _ _ _ statePoisoned => rw [← statePoisoned, clean]

theorem init_kept (project : Option ProjectSnapshot) (task : Option Task) (repo : Option σ) :
    (World.init project task repo).books.Kept :=
  ⟨Operations.empty, by simp [books, World.init, SessionState.new],
    ⟨by simp [books, World.init, SessionState.new], List.nodup_nil, Nat.zero_le _⟩,
    ⟨by simp [books, World.init, SessionState.new], List.nodup_nil, Nat.zero_le _⟩⟩

end World

/-- `remember_completed` up to its two loops. -/
def SessionState.inserted (s : SessionState) (c : Completion) : SessionState :=
  { s with
    completed := s.completed.insert c.key c.mutation
    completedOrder :=
      if c.key ∈ s.completed then s.completedOrder else s.completedOrder ++ [c.key]
    completedRequests := insert c.requestId s.completedRequests
    completedRequestOrder :=
      if c.requestId ∈ s.completedRequests then s.completedRequestOrder
      else s.completedRequestOrder ++ [c.requestId] }

/-- The books of a session are in order. -/
structure SoundBooks {σ : Type} [StateRepository σ] (streamId : String) (w : World σ) : Prop where
  completed : (∀ k, k ∈ w.state.completedOrder ↔ k ∈ w.state.completed) ∧
    w.state.completedOrder.Nodup ∧ w.state.completedOrder.length ≤ 256
  requests : (∀ r, r ∈ w.state.completedRequestOrder ↔ r ∈ w.state.completedRequests) ∧
    w.state.completedRequestOrder.Nodup ∧ w.state.completedRequestOrder.length ≤ 256
  disjoint : ∀ k ∈ w.state.inFlight, k ∉ w.state.completed
  /-- One active entry for each call, and one call for each active entry. -/
  active : (∀ f c, w.opens.lookup f = some c →
      w.state.active.lookup c.request.requestId = some ⟨f⟩) ∧
    ∀ r ∈ w.state.active, ∃! f, ∃ c, w.opens.lookup f = some c ∧ c.request.requestId = r
  /-- One in-flight entry for each call, with its fingerprint, and one call for each. -/
  inFlight : (∀ f c, w.opens.lookup f = some c →
      w.state.inFlight.lookup c.key = some c.fingerprint) ∧
    ∀ k ∈ w.state.inFlight, ∃! f, ∃ c, w.opens.lookup f = some c ∧ c.key = k
  /-- A finishing call removes its own entries and leaves those of the others. -/
  finish : ∀ flag w' o, (session σ streamId).step w (.finish flag) = some (w', o) →
    ∃ call, w.opens.lookup flag = some call ∧
      w.state.active.lookup call.request.requestId = some ⟨flag⟩ ∧
      w.state.inFlight.lookup call.key = some call.fingerprint ∧
      w'.state.active = w.state.active.erase call.request.requestId ∧
      w'.state.inFlight = w.state.inFlight.erase call.key ∧
      ∀ g d, g ≠ flag → w.opens.lookup g = some d →
        w'.state.active.lookup d.request.requestId = some ⟨g⟩ ∧
        w'.state.inFlight.lookup d.key = some d.fingerprint
  /-- Both loops come to an end, with the result of `remember_completed`. -/
  loops : ∀ c, ∃ n m,
    (evictPass IDEMPOTENCY_LIMIT (fun m k => m.erase k))^[n]
        ((w.state.inserted c).completedOrder, (w.state.inserted c).completed) =
      ((w.state.rememberCompleted c).completedOrder, (w.state.rememberCompleted c).completed) ∧
    ¬IDEMPOTENCY_LIMIT < (w.state.rememberCompleted c).completedOrder.length ∧
    (evictPass IDEMPOTENCY_LIMIT (fun m k => m.erase k))^[m]
        ((w.state.inserted c).completedRequestOrder, (w.state.inserted c).completedRequests) =
      ((w.state.rememberCompleted c).completedRequestOrder,
        (w.state.rememberCompleted c).completedRequests) ∧
    ¬IDEMPOTENCY_LIMIT < (w.state.rememberCompleted c).completedRequestOrder.length

section Runs

variable {σ : Type} [StateRepository σ] {streamId : String} {w₀ w : World σ}

theorem finish_erases {w' : World σ} {flag : FlagId} {o : Output} (clean : w.statePoisoned = false)
    (hs : w.step streamId (.finish flag) = some (w', o)) :
    ∃ call, w.opens.lookup flag = some call ∧ w'.opens = w.opens.erase flag ∧
      w'.state.active = w.state.active.erase call.request.requestId ∧
      w'.state.inFlight = w.state.inFlight.erase call.key := by
  obtain ⟨call, result, running, returned, finish⟩ := World.step_finish hs
  have settled := World.settle_books streamId (w.remove flag call) call.request.requestId result
  have lock : ¬ w.statePoisoned = true := by simp [clean]
  unfold World.finishOpen at finish
  rw [if_neg lock] at finish
  obtain ⟨rfl, _⟩ := Prod.mk.inj finish
  exact ⟨call, running, congrArg Books.opens settled, congrArg Books.active settled,
    congrArg Books.inFlight settled⟩

/-- The books are kept in every state of a run that has not poisoned the lock. -/
theorem run_kept {tr : List (Action × Output)} (start : w₀.books.Kept)
    (run : (session σ streamId).Run Machine.anyStep w₀ tr w) (clean : w.statePoisoned = false) :
    w.books.Kept := by
  apply run.invariant (I := fun w => w.statePoisoned = false → w.books.Kept) (fun _ => start) _ clean
  intro t a u o h _ hs clean
  have before := World.effect_clean (World.step_effect hs) clean
  have step := World.step_books hs
  rw [before] at step
  exact Books.step_kept (h before) step

/-- The bookkeeping of a session, in every state a run reaches without poisoning the lock. -/
theorem bookkeeping_sound {tr : List (Action × Output)} (start : Started w₀)
    (run : (session σ streamId).Run Machine.anyStep w₀ tr w) (clean : w.statePoisoned = false) :
    SoundBooks streamId w := by
  obtain ⟨project, task, repo, rfl⟩ := start.init
  have kept := run_kept (World.init_kept project task repo) run clean
  have ops : Operations w.flagCount w.opens w.state.active w.state.inFlight := kept.operations
  have listed (f : FlagId) (c : OpenCall) (hc : w.opens.lookup f = some c) :
      w.state.active.lookup c.request.requestId = some ⟨f⟩ :=
    (ops.active_iff _ f).mpr ⟨c, hc, rfl⟩
  have held (f : FlagId) (c : OpenCall) (hc : w.opens.lookup f = some c) :
      w.state.inFlight.lookup c.key = some c.fingerprint :=
    (ops.inFlight_iff _ _).mpr ⟨f, c, hc, rfl, rfl⟩
  refine ⟨⟨kept.completed.mem_iff, kept.completed.nodup, kept.completed.length_le⟩,
    ⟨kept.requests.mem_iff, kept.requests.nodup, kept.requests.length_le⟩, kept.disjoint,
    ⟨listed, ?_⟩, ⟨held, ?_⟩, ?_, ?_⟩
  · intro r hr
    obtain ⟨f, c, hc, hcr⟩ := (ops.mem_active r).mp hr
    refine ⟨f, ⟨c, hc, hcr⟩, ?_⟩
    intro g hg
    obtain ⟨d, hd, hdr⟩ := hg
    exact ops.request_unique hd hc (hdr.trans hcr.symm)
  · intro k hk
    obtain ⟨f, c, hc, hck⟩ := (ops.mem_inFlight k).mp hk
    refine ⟨f, ⟨c, hc, hck⟩, ?_⟩
    intro g hg
    obtain ⟨d, hd, hdk⟩ := hg
    exact ops.key_unique g f d c hd hc (hdk.trans hck.symm)
  · intro flag w' o hs
    obtain ⟨call, running, opens, active, inFlight⟩ := finish_erases clean hs
    have after := ops.finish running
    refine ⟨call, running, listed flag call running, held flag call running, active, inFlight, ?_⟩
    intro g d hg hd
    have hd' : (w.opens.erase flag).lookup g = some d := by
      rw [Assoc.lookup_erase_ite, if_neg hg, hd]
    rw [active, inFlight]
    exact ⟨(after.active_iff _ g).mpr ⟨d, hd', rfl⟩,
      (after.inFlight_iff _ _).mpr ⟨g, d, hd', rfl, rfl⟩⟩
  · intro c
    refine ⟨_, _, evictPass_iterate _ _ _ _, ?_, evictPass_iterate _ _ _ _, ?_⟩
    · exact Nat.not_lt.mpr (Books.complete_completed w.books kept.completed c).length_le
    · exact Nat.not_lt.mpr (Books.complete_requests w.books kept.requests c).length_le

end Runs

/-- One open is running, a second has finished and a cancel request has been answered. -/
theorem bookkeeping_sound_busy :
    ∃ tr w, (session Empty "s").Run Machine.anyStep World.new tr w ∧
      w.state.active.keys = ["a"] ∧ w.state.completedOrder = ["m", "l"] ∧ SoundBooks "s" w := by
  have run := Machine.run_of_exec_isSome (session Empty "s") Machine.anyStep World.new [
    .dispatch ⟨PROTOCOL_VERSION,"a",.openProject "/p",some "k"⟩,
    .dispatch ⟨PROTOCOL_VERSION,"b",.openProject "/q",some "l"⟩,
    .subscribe,
    .firstCheck 1,
    .dispatch ⟨PROTOCOL_VERSION,"c",.cancelRequest "b",some "m"⟩,
    .inspectReturns 1 (.error (.repository "notGitRepository")),
    .finish 1] (by decide)
  exact ⟨_, _, run, by decide, by decide, bookkeeping_sound .new run (by decide)⟩

end Kesharon.Daemon

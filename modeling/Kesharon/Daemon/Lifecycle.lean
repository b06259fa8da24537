import Kesharon.Daemon.Events

namespace Kesharon.Daemon

open Framework Domain Protocol Application

/-- The events that name a request, each as whether it is a start. -/
def named (requestId : String) (es : List DaemonEvent) : List Bool :=
  (es.filter fun e => e.payload.requestId = requestId).map fun e => e.payload.isStarted

theorem named_append (r : String) (xs ys : List DaemonEvent) :
    named r (xs ++ ys) = named r xs ++ named r ys := by
  simp [named]

theorem named_singleton (r : String) (e : DaemonEvent) :
    named r [e] = if e.payload.requestId = r then [e.payload.isStarted] else [] := by
  by_cases h : e.payload.requestId = r <;> simp [named, h]

/-- Start, end, start, end, ... -/
def Alternates (bs : List Bool) : Prop := ∀ i b, bs[i]? = some b → b = decide (i % 2 = 0)

theorem alternates_nil : Alternates [] := by
  intro i b h
  simp at h

theorem Alternates.snoc {bs : List Bool} (h : Alternates bs) {b : Bool}
    (next : b = decide (bs.length % 2 = 0)) : Alternates (bs ++ [b]) := by
  intro i c hc
  rw [List.getElem?_append] at hc
  split_ifs at hc with hi
  · exact h i c hc
  · rw [List.getElem?_singleton] at hc
    split_ifs at hc with hz
    have : i = bs.length := by omega
    rw [← Option.some.inj hc, this, next]

/-- The last element tells the parity of the length. -/
theorem Alternates.getLast_iff {bs : List Bool} (h : Alternates bs) :
    bs.getLast? = some true ↔ bs.length % 2 = 1 := by
  rw [List.getLast?_eq_getElem?]
  constructor
  · intro hl
    have hp := h _ _ hl
    have hpos : 0 < bs.length := by
      have := (List.getElem?_eq_some_iff.mp hl).1
      omega
    have := of_decide_eq_true hp.symm
    omega
  · intro hodd
    have hlt : bs.length - 1 < bs.length := by omega
    rw [List.getElem?_eq_getElem hlt]
    have hb := h _ _ (List.getElem?_eq_getElem hlt)
    rw [hb]
    have : (bs.length - 1) % 2 = 0 := by omega
    simp [this]

/-- The request of an open that passes its begin step. -/
def begunBy : Action → Output → Option ClientRequest
  | .dispatch request, o => if o.response.isNone then some request else none
  | _, _ => none

def finishedBy : Action → Option FlagId
  | .finish flag => some flag
  | _ => none

/-- The opens that passed their begin step; the `f`-th one got the flag `f`. -/
def begins (tr : List (Action × Output)) : List ClientRequest :=
  tr.filterMap fun p => begunBy p.1 p.2

def finishes (tr : List (Action × Output)) : List FlagId := tr.filterMap fun p => finishedBy p.1

theorem begins_snoc (tr : List (Action × Output)) (a : Action) (o : Output) :
    begins (tr ++ [(a, o)]) = begins tr ++ (begunBy a o).toList := by
  cases h : begunBy a o <;> simp [begins, h]

theorem finishes_snoc (tr : List (Action × Output)) (a : Action) (o : Output) :
    finishes (tr ++ [(a, o)]) = finishes tr ++ (finishedBy a).toList := by
  cases h : finishedBy a <;> simp [finishes, h]

/-- A terminal event and a response say the same about a request. -/
inductive Agrees (requestId : String) : DaemonEventPayload → ServerResponse → Prop where
  | opened (project : ProjectSnapshot) :
      Agrees requestId (.projectOpened requestId project)
        (.success requestId (.projectOpened project))
  | cancelled (message : String) :
      Agrees requestId (.operationCancelled requestId)
        (.failure requestId .operationCancelled message)
  | failed (code : ErrorCode) (message : String) :
      Agrees requestId (.operationFailed requestId code message)
        (.failure requestId code message)

/-- What a step reports, given the requests of the opens begun before it. -/
inductive Reports (begun : List ClientRequest) : Action → Output → Prop where
  | answered {request : ClientRequest} {o : Output} {response : ServerResponse}
      (answer : o.response = some response) (silent : o.events = []) :
      Reports begun (.dispatch request) o
  | started {request : ClientRequest} {o : Output} {e : DaemonEvent} {path : String}
      (method : request.method = .openProject path) (running : o.response = none)
      (events : o.events = [e])
      (payload : e.payload = .operationStarted request.requestId .openProject) :
      Reports begun (.dispatch request) o
  | ended {flag : FlagId} {request : ClientRequest} {o : Output} {e : DaemonEvent}
      {response : ServerResponse} (call : begun[flag]? = some request) (events : o.events = [e])
      (answer : o.response = some response)
      (agrees : Agrees request.requestId e.payload response) :
      Reports begun (.finish flag) o
  | silent {a : Action} {o : Output} (other : ∀ request, a ≠ .dispatch request)
      (running : ∀ flag, a ≠ .finish flag) (silent : o.events = []) : Reports begun a o

section Steps

variable {σ : Type} [StateRepository σ] {streamId : String} {w w' : World σ}

theorem settlement_agrees {requestId : String} {result : Except ApplicationError Project}
    {repo : Option σ} {project : Option ProjectSnapshot} {payload : DaemonEventPayload}
    {response : ServerResponse} {saved : Option Project}
    (h : Settlement w requestId result repo project payload response saved) :
    Agrees requestId payload response := by
  cases h with
  | opened p noStore => exact .opened _
  | stored p repo repo' store save => exact .opened _
  | unsaved p e repo repo' store save => exact .failed _ _
  | cancelled => exact .cancelled _
  | failed e other => exact .failed _ _

theorem Agrees.requestId_eq {requestId : String} {payload : DaemonEventPayload}
    {response : ServerResponse} (h : Agrees requestId payload response) :
    payload.requestId = requestId ∧ payload.isStarted = false := by
  cases h <;> exact ⟨rfl, rfl⟩

/-- A step without an event keeps the active map. One with an event starts a request that was
not active or ends one that was. -/
theorem outcome_active {a : Action} {o : Output} (books : Bookkeeping w)
    (hs : Outcome streamId w a w' o) :
    (o.events = [] ∧ w'.state.active = w.state.active) ∨
      ∃ e, o.events = [e] ∧
        (e.payload.isStarted = true ↔ e.payload.requestId ∉ w.state.active) ∧
        ∀ r, r ∈ w'.state.active ↔
          if r = e.payload.requestId then e.payload.isStarted = true else r ∈ w.state.active := by
  cases hs with
  | answered request response => exact .inl ⟨rfl, rfl⟩
  | begun request path key event method keyed notCompleted notInFlight idle next =>
    obtain ⟨sub, hst⟩ := begun_state w request path key event
    refine .inr ⟨event, rfl, ?_, ?_⟩
    · rw [next.payload_eq]
      exact ⟨fun _ => idle, fun _ => rfl⟩
    · intro r
      rw [next.payload_eq, hst, AList.mem_insert]
      by_cases hr : r = request.requestId <;>
        simp [hr, DaemonEventPayload.requestId, DaemonEventPayload.isStarted]
  | cancelled request target key completion => exact .inl ⟨rfl, rfl⟩
  | moved _ flag call execution running moves => exact .inl ⟨rfl, rfl⟩
  | finished flag call result repo project payload event response saved completion running here
      settles next completes =>
    obtain ⟨sub, hst⟩ := settled_state w flag call repo project event
    obtain ⟨hid, hend⟩ := (settlement_agrees settles).requestId_eq
    have busy : call.request.requestId ∈ w.state.active :=
      (books.operations.mem_active _).mpr ⟨flag, call, running, rfl⟩
    refine .inr ⟨event, rfl, ?_, ?_⟩
    · rw [next.payload_eq, hid, hend]
      simp [busy]
    · intro r
      change r ∈ (w.settled flag call repo project event).state.active ↔ _
      rw [next.payload_eq, hid, hend, hst, AList.mem_erase]
      by_cases hr : r = call.request.requestId <;> simp [hr]
  | subscribed =>
    obtain ⟨sub, chans, count, hw, ho⟩ := subscribe_frame streamId w
    exact .inl ⟨ho, by rw [hw]⟩
  | received ch r c known alive recv => exact .inl ⟨rfl, rfl⟩
  | hungUp ch known => exact .inl ⟨rfl, rfl⟩

/-- The events so far alternate for each request, and tell which requests are active. -/
def Balanced (es : List DaemonEvent) (s : SessionState) : Prop :=
  ∀ r, Alternates (named r es) ∧ (r ∈ s.active ↔ (named r es).length % 2 = 1)

theorem outcome_balanced {a : Action} {o : Output} {es : List DaemonEvent}
    (books : Bookkeeping w) (h : Balanced es w.state) (hs : Outcome streamId w a w' o) :
    Balanced (es ++ o.events) w'.state := by
  intro r
  obtain ⟨halt, hactive⟩ := h r
  rcases outcome_active books hs with ⟨ho, hkeep⟩ | ⟨e, ho, hstart, hmem⟩
  · rw [ho, hkeep, List.append_nil]
    exact h r
  · rw [ho, named_append, named_singleton, hmem r]
    by_cases hr : e.payload.requestId = r
    · have hodd : e.payload.isStarted = decide ((named r es).length % 2 = 0) := by
        rw [hr, hactive] at hstart
        rw [Bool.eq_iff_iff, decide_eq_true_iff, hstart]
        omega
      rw [if_pos hr, if_pos hr.symm]
      refine ⟨halt.snoc hodd, ?_⟩
      rw [hodd, decide_eq_true_iff, List.length_append]
      simp only [List.length_cons, List.length_nil]
      omega
    · rw [if_neg hr, if_neg (Ne.symm hr), List.append_nil]
      exact h r

/-- The calls of a world are those begun and not finished. -/
structure CallHistory (tr : List (Action × Output)) (w : World σ) : Prop where
  count : w.flagCount = (begins tr).length
  running : ∀ f c, w.opens.lookup f = some c → (begins tr)[f]? = some c.request
  once : (finishes tr).Nodup
  gone : ∀ f ∈ finishes tr, f < w.flagCount ∧ w.opens.lookup f = none

omit [StateRepository σ] in
/-- A step that neither begins nor finishes a call keeps the history. -/
theorem CallHistory.keep {tr : List (Action × Output)} (h : CallHistory tr w) {a : Action}
    {o : Output} (begun : begunBy a o = none) (finished : finishedBy a = none)
    (count : w'.flagCount = w.flagCount)
    (opens : ∀ f, (w'.opens.lookup f).map OpenCall.request =
      (w.opens.lookup f).map OpenCall.request) : CallHistory (tr ++ [(a, o)]) w' := by
  have lookup {f : FlagId} {c : OpenCall} (hc : w'.opens.lookup f = some c) :
      ∃ d, w.opens.lookup f = some d ∧ d.request = c.request := by
    have := opens f
    rw [hc] at this
    exact Option.map_eq_some_iff.mp this.symm
  refine ⟨?_, ?_, ?_, ?_⟩
  · rw [begins_snoc, begun, count, h.count]
    simp
  · intro f c hc
    obtain ⟨d, hd, hreq⟩ := lookup hc
    rw [begins_snoc, begun, ← hreq]
    simpa using h.running f d hd
  · rw [finishes_snoc, finished]
    simpa using h.once
  · intro f hf
    rw [finishes_snoc, finished] at hf
    obtain ⟨hlt, hnone⟩ := h.gone f (by simpa using hf)
    refine ⟨count ▸ hlt, ?_⟩
    have := opens f
    rw [hnone] at this
    simpa using this

omit [StateRepository σ] in
theorem CallHistory.begin {tr : List (Action × Output)} (h : CallHistory tr w)
    (request : ClientRequest) (path key : String) (event : DaemonEvent) :
    CallHistory (tr ++ [(.dispatch request, { events := [event] })])
      (w.begun request path key event) := by
  obtain ⟨sub, chans, he⟩ := (w.register request.requestId path key).emit_frame event
  unfold World.begun
  rw [he]
  refine ⟨?_, ?_, ?_, ?_⟩
  · rw [begins_snoc]
    change w.flagCount + 1 = _
    rw [h.count]
    simp [begunBy]
  · intro f c hc
    change (w.opens.insert w.flagCount ⟨request,key,path,w.flagCount,.entered⟩).lookup f = some c at hc
    rw [Assoc.lookup_insert_ite] at hc
    rw [begins_snoc]
    split_ifs at hc with hf
    · rw [hf, h.count, ← Option.some.inj hc]
      simp [begunBy]
    · have hold := h.running f c hc
      rw [List.getElem?_append_left (List.getElem?_eq_some_iff.mp hold).1]
      exact hold
  · rw [finishes_snoc]
    simpa [finishedBy] using h.once
  · intro f hf
    rw [finishes_snoc] at hf
    obtain ⟨hlt, hnone⟩ := h.gone f (by simpa [finishedBy] using hf)
    refine ⟨Nat.lt_succ_of_lt hlt, ?_⟩
    change (w.opens.insert w.flagCount ⟨request,key,path,w.flagCount,.entered⟩).lookup f = none
    rw [Assoc.lookup_insert_ite, if_neg (Nat.ne_of_lt hlt)]
    exact hnone

omit [StateRepository σ] in
theorem CallHistory.finish {tr : List (Action × Output)} (books : Bookkeeping w)
    (h : CallHistory tr w) {flag : FlagId} {call : OpenCall}
    (running : w.opens.lookup flag = some call) {o : Output}
    (count : w'.flagCount = w.flagCount) (opens : w'.opens = w.opens.erase flag) :
    CallHistory (tr ++ [(.finish flag, o)]) w' := by
  refine ⟨?_, ?_, ?_, ?_⟩
  · rw [begins_snoc, count, h.count]
    simp [begunBy]
  · intro f c hc
    rw [opens, Assoc.lookup_erase_ite] at hc
    split_ifs at hc
    rw [begins_snoc]
    simpa [begunBy] using h.running f c hc
  · rw [finishes_snoc]
    have fresh : flag ∉ finishes tr := by
      intro hf
      rw [(h.gone flag hf).2] at running
      simp at running
    exact List.nodup_append.mpr ⟨h.once, List.nodup_singleton flag, by
      intro x hx y hy he
      rw [List.mem_singleton.mp hy] at he
      exact fresh (he ▸ hx)⟩
  · intro f hf
    rw [finishes_snoc] at hf
    rw [count, opens, Assoc.lookup_erase_ite]
    rcases List.mem_append.mp hf with hf | hf
    · obtain ⟨hlt, hnone⟩ := h.gone f hf
      exact ⟨hlt, by rw [hnone]; simp⟩
    · obtain rfl := List.mem_singleton.mp hf
      exact ⟨(books.operations.cancellation f call running).2, if_pos rfl⟩

theorem outcome_history {tr : List (Action × Output)} {a : Action} {o : Output}
    (books : Bookkeeping w) (h : CallHistory tr w) (hs : Outcome streamId w a w' o) :
    CallHistory (tr ++ [(a, o)]) w' := by
  cases hs with
  | answered request response => exact h.keep rfl rfl rfl (fun _ => rfl)
  | begun request path key event => exact h.begin request path key event
  | cancelled request target key completion => exact h.keep rfl rfl rfl (fun _ => rfl)
  | moved _ flag call execution running moves =>
    have hopens (f : FlagId) : ((w.advance flag call execution).opens.lookup f).map
        OpenCall.request = (w.opens.lookup f).map OpenCall.request := by
      change ((w.opens.insert flag { call with execution := execution }).lookup f).map _ = _
      rw [Assoc.lookup_insert_ite]
      by_cases hf : f = flag
      · rw [if_pos hf, hf, running]
        rfl
      · rw [if_neg hf]
    cases moves <;> exact h.keep rfl rfl rfl hopens
  | finished flag call result repo project payload event response saved completion running here
      settles next completes =>
    obtain ⟨sub, chans, he⟩ := ((w.remove flag call).setRepository repo).emit_frame event
    apply h.finish books running
    · unfold World.finished World.settled
      rw [he]
      rfl
    · unfold World.finished World.settled
      rw [he]
      rfl
  | subscribed =>
    obtain ⟨sub, chans, count, hw, ho⟩ := subscribe_frame streamId w
    rw [hw]
    exact h.keep rfl rfl rfl (fun _ => rfl)
  | received ch r c known alive recv => exact h.keep rfl rfl rfl (fun _ => rfl)
  | hungUp ch known => exact h.keep rfl rfl rfl (fun _ => rfl)

theorem outcome_reports {tr : List (Action × Output)} {a : Action} {o : Output}
    (h : CallHistory tr w) (hs : Outcome streamId w a w' o) : Reports (begins tr) a o := by
  cases hs with
  | answered request response => exact .answered rfl rfl
  | begun request path key event method keyed notCompleted notInFlight idle next =>
    exact .started method rfl rfl next.payload_eq
  | cancelled request target key completion => exact .answered rfl rfl
  | moved _ flag call execution running moves => cases moves <;> exact .silent nofun nofun rfl
  | finished flag call result repo project payload event response saved completion running here
      settles next completes =>
    have agrees := settlement_agrees settles
    rw [← next.payload_eq] at agrees
    exact .ended (h.running flag call running) rfl rfl agrees
  | subscribed =>
    obtain ⟨sub, chans, count, hw, ho⟩ := subscribe_frame streamId w
    exact .silent nofun nofun ho
  | received ch r c known alive recv => exact .silent nofun nofun rfl
  | hungUp ch known => exact .silent nofun nofun rfl

/-- What a healthy run keeps of its events and calls. -/
theorem run_history {w₀ : World σ} {tr : List (Action × Output)} (start : Started w₀)
    (run : (session σ streamId).Run healthyStep w₀ tr w) :
    Healthy w ∧ Bookkeeping w ∧ Balanced (emitted tr) w.state ∧ CallHistory tr w := by
  apply run.history (P := fun tr w =>
    Healthy w ∧ Bookkeeping w ∧ Balanced (emitted tr) w.state ∧ CallHistory tr w)
  · refine ⟨start.healthy, start.bookkeeping, ?_, ?_⟩
    · obtain ⟨project, task, repo, rfl⟩ := start.init
      intro r
      exact ⟨alternates_nil, by simp [World.init, SessionState.new, named]⟩
    · obtain ⟨project, task, repo, rfl⟩ := start.init
      exact ⟨rfl, by simp [World.init], List.nodup_nil, by simp [finishes]⟩
  · intro tr t a u o h hok hs
    obtain ⟨hh, hb, hbal, hcalls⟩ := h
    have outcome := step_outcome hh hok hs
    refine ⟨hok, outcome_bookkeeping hb outcome, ?_, outcome_history hb hcalls outcome⟩
    simp only [emitted_append, emitted_cons, emitted_nil, List.append_nil]
    exact outcome_balanced hb hbal outcome

/-- One start, one end: the events of a run are numbered 1, 2, 3, ...; those that name a request
alternate between a start and an end, and the request is active while the last is a start; no
call finishes twice, and every step reports what it did to its call and nothing else. -/
theorem one_start_one_end {w₀ : World σ} {tr : List (Action × Output)} (start : Started w₀)
    (run : (session σ streamId).Run healthyStep w₀ tr w) :
    (emitted tr).map (fun e => e.sequence.toNat) = List.range' 1 (emitted tr).length ∧
      (∀ r, Alternates (named r (emitted tr)) ∧
        (r ∈ w.state.active ↔ (named r (emitted tr)).getLast? = some true)) ∧
      (finishes tr).Nodup ∧
      ∀ i a o, tr[i]? = some (a, o) → Reports (begins (tr.take i)) a o := by
  obtain ⟨hh, hb, hbal, hcalls⟩ := run_history start run
  refine ⟨?_, ?_, hcalls.once, ?_⟩
  · have numbers := (run_numbered run start.healthy).1.numbers
    obtain ⟨project, task, repo, rfl⟩ := start.init
    exact numbers
  · intro r
    obtain ⟨halt, hactive⟩ := hbal r
    exact ⟨halt, by rw [hactive, halt.getLast_iff]⟩
  · intro i a o hi
    obtain ⟨xs, ys, t, t', rfl, hlen, before, hok, hs, _⟩ := run.at_index hi
    obtain ⟨hh', _, _, hcalls'⟩ := run_history start before
    have htake : (xs ++ (a, o) :: ys).take i = xs := by simp [← hlen]
    rw [htake]
    exact outcome_reports hcalls' (step_outcome hh' hok hs)

end Steps

/-- A request id whose first open has failed is used again. -/
theorem one_start_one_end_reused_id :
    ∃ tr w, (session Empty "s").Run healthyStep World.new tr w ∧
      (emitted tr).map (fun e => e.sequence.toNat) = [1, 2, 3] ∧
      Alternates (named "a" (emitted tr)) ∧ "a" ∈ w.state.active := by
  have run := Machine.run_of_exec_isSome (session Empty "s") healthyStep World.new [
    .dispatch ⟨PROTOCOL_VERSION,"a",.openProject "/p",some "k"⟩,
    .firstCheck 0,
    .inspectReturns 0 (.error (.repository "notGitRepository")),
    .finish 0,
    .dispatch ⟨PROTOCOL_VERSION,"a",.openProject "/p",some "l"⟩] (by decide)
  obtain ⟨numbers, balanced, _⟩ := one_start_one_end .new run
  obtain ⟨alternates, active⟩ := balanced "a"
  exact ⟨_, _, run, numbers.trans (by decide), alternates, active.mpr (by decide)⟩

end Kesharon.Daemon

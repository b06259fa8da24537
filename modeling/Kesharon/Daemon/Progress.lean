import Kesharon.Daemon.Books
import Kesharon.Daemon.Replies

namespace Kesharon.Daemon

open Framework Domain Protocol Application

/-- The call whose thread takes a step. -/
def Action.call : Action → Option FlagId
  | .firstCheck flag => some flag
  | .inspectReturns flag _ => some flag
  | .secondCheck flag _ => some flag
  | .finish flag => some flag
  | _ => none

namespace OpenCall

/-- The steps a call has before it at most: two checks, the inspection between them, its end. -/
def left (call : OpenCall) : Nat :=
  match call.execution with
  | .entered => 4
  | .inspecting => 3
  | .inspected _ => 2
  | .returned _ => 1

/-- The next step of a call, with the answer or the generated id that it may be about. -/
def next (flag : FlagId) (answer : Except ApplicationError RepositoryInspection) (nextId : String)
    (call : OpenCall) : Action :=
  match call.execution with
  | .entered => .firstCheck flag
  | .inspecting => .inspectReturns flag answer
  | .inspected _ => .secondCheck flag nextId
  | .returned _ => .finish flag

theorem left_le (call : OpenCall) : call.left ≤ 4 := by
  unfold left
  split <;> omega

theorem left_pos (call : OpenCall) : 0 < call.left := by
  unfold left
  split <;> omega

theorem next_call (flag : FlagId) (answer : Except ApplicationError RepositoryInspection)
    (nextId : String) (call : OpenCall) : (call.next flag answer nextId).call = some flag := by
  unfold next
  split <;> rfl

end OpenCall

/-- The steps of one call in a trace. -/
def ownSteps (flag : FlagId) (tr : List (Action × Output)) : List (Action × Output) :=
  tr.filter fun p => p.1.call = some flag

theorem ownSteps_own {flag : FlagId} {a : Action} (own : a.call = some flag)
    (tr : List (Action × Output)) (o : Output) :
    ownSteps flag (tr ++ [(a, o)]) = ownSteps flag tr ++ [(a, o)] := by
  simp [ownSteps, own]

theorem ownSteps_other {flag : FlagId} {a : Action} (other : a.call ≠ some flag)
    (tr : List (Action × Output)) (o : Output) :
    ownSteps flag (tr ++ [(a, o)]) = ownSteps flag tr := by
  simp [ownSteps, other]

/-- A step only moves a call on if it brings the call closer to its end. -/
theorem Moves.left_lt {σ : Type} {w : World σ} {flag : FlagId} {call : OpenCall} {a : Action}
    {execution : Execution} (moves : Moves w flag call a execution) :
    OpenCall.left { call with execution := execution } < call.left ∧ a.call = some flag := by
  cases moves with
  | firstCheck here =>
    refine ⟨?_, rfl⟩
    cases w.flags call.cancellation <;> simp [OpenCall.left, here, Execution.firstCheck]
  | inspectReturns answer here =>
    refine ⟨?_, rfl⟩
    cases answer <;> simp [OpenCall.left, here, Execution.inspectReturns]
  | secondCheck inspection nextId here =>
    refine ⟨?_, rfl⟩
    cases w.flags call.cancellation <;> simp [OpenCall.left, here, Execution.secondCheck]

section Steps

variable {σ : Type} [StateRepository σ] {streamId : String} {w w' : World σ} {a : Action}
  {o : Output} {flag : FlagId}

/-- Flags are only ever given out. -/
theorem flagCount_le (hs : w.step streamId a = some (w', o)) : w.flagCount ≤ w'.flagCount := by
  cases World.step_effect hs with
  | unrelated same _ => exact Nat.le_of_eq same.flagCount.symm
  | poisoned _ => exact Nat.le_refl _
  | begun _ _ _ _ _ _ flagCount _ _ _ => omega
  | undone _ _ _ _ _ flagCount _ _ _ => omega
  | flagged _ _ _ _ _ _ _ _ _ _ _ _ flagCount _ _ _ => omega
  | moved _ _ _ _ _ => exact Nat.le_refl _
  | finished _ _ _ _ flagCount _ _ _ => omega

/-- The steps of others leave a call where it is. -/
theorem other_step (hs : w.step streamId a = some (w', o)) (other : a.call ≠ some flag)
    (old : flag < w.flagCount) : w'.opens.lookup flag = w.opens.lookup flag := by
  cases World.step_effect hs with
  | unrelated same _ => rw [same.opens]
  | poisoned _ => rfl
  | begun request key path _ _ _ _ opens _ _ =>
    rw [opens, Assoc.lookup_insert_ite, if_neg (Nat.ne_of_lt old)]
  | undone _ _ _ _ _ _ opens _ _ => rw [opens]
  | flagged _ _ _ _ _ _ _ _ _ _ _ _ _ opens _ _ => rw [opens]
  | moved flag' call execution running moves =>
    have apart : flag ≠ flag' := fun he => other (he ▸ moves.left_lt.2)
    change (w.opens.insert flag' _).lookup flag = _
    rw [Assoc.lookup_insert_ite, if_neg apart]
  | finished flag' call running _ _ opens _ _ =>
    have apart : flag ≠ flag' := fun he => other (congrArg some he.symm)
    rw [opens, Assoc.lookup_erase_ite, if_neg apart]

/-- What its own step does to a call: it moves on and says nothing, or it ends with an answer. -/
inductive OwnStep (w : World σ) (flag : FlagId) (call : OpenCall) (w' : World σ) (o : Output) :
    Prop where
  | moved (execution : Execution)
      (found : w'.opens.lookup flag = some { call with execution := execution })
      (closer : OpenCall.left { call with execution := execution } < call.left)
      (silent : o.response = none)
  | ended (gone : w'.opens.lookup flag = none) (response : ServerResponse)
      (answer : o.response = some response) (own : response.requestId = call.request.requestId)

/-- A call that ends leaves the calls in progress. -/
theorem finish_opens (hs : w.step streamId (.finish flag) = some (w', o)) :
    w'.opens = w.opens.erase flag ∧ w'.statePoisoned = w.statePoisoned := by
  cases World.step_effect hs with
  | unrelated _ other => exact absurd rfl (other flag)
  | poisoned other => exact absurd rfl (other flag)
  | moved _ _ _ _ moves => cases moves
  | finished _ _ _ _ _ opens _ statePoisoned => exact ⟨opens, statePoisoned⟩

theorem finish_answers (hs : w.step streamId (.finish flag) = some (w', o)) :
    ∃ response, o.response = some response := by
  obtain ⟨call, result, running, returned, finish⟩ := World.step_finish hs
  unfold World.finishOpen at finish
  split_ifs at finish
  · obtain ⟨_, rfl⟩ := Prod.mk.inj finish
    exact ⟨_, rfl⟩
  · obtain ⟨_, rfl⟩ := Prod.mk.inj finish
    exact ⟨_, rfl⟩

theorem own_step (hs : w.step streamId a = some (w', o)) (own : a.call = some flag) :
    ∃ call, w.opens.lookup flag = some call ∧ OwnStep w flag call w' o := by
  cases World.step_stepped hs with
  | moved _ flag' call execution running moves =>
    obtain rfl : flag' = flag := Option.some.inj (moves.left_lt.2.symm.trans own)
    exact ⟨call, running, .moved execution (AList.lookup_insert _) moves.left_lt.1 rfl⟩
  | finished flag' call result running returned =>
    obtain rfl : flag' = flag := Option.some.inj own
    obtain ⟨response, answer⟩ := finish_answers hs
    have replies := (World.step_speaks hs).response response answer
    have named : response.requestId = call.request.requestId := by
      cases replies with
      | finished _ call' _ running' _ verdict =>
        obtain rfl := Option.some.inj (running.symm.trans running')
        cases verdict <;> rfl
      | lost _ call' running' =>
        obtain rfl := Option.some.inj (running.symm.trans running')
        rfl
    have gone : (w.finishOpen streamId flag' call result).1.opens.lookup flag' = none := by
      rw [(finish_opens hs).1]
      exact AList.lookup_erase _ _
    exact ⟨call, running, .ended gone response answer named⟩
  | _ => cases own

/-- It touches no other call, and no lock. -/
theorem own_step_frame (hs : w.step streamId a = some (w', o)) (own : a.call = some flag) :
    w'.statePoisoned = w.statePoisoned ∧
      ∀ g, g ≠ flag → w'.opens.lookup g = w.opens.lookup g := by
  cases World.step_stepped hs with
  | moved _ flag' call execution running moves =>
    obtain rfl : flag' = flag := Option.some.inj (moves.left_lt.2.symm.trans own)
    refine ⟨rfl, ?_⟩
    intro g apart
    change (w.opens.insert flag' _).lookup g = _
    rw [Assoc.lookup_insert_ite, if_neg apart]
  | finished flag' call result running returned =>
    obtain rfl : flag' = flag := Option.some.inj own
    have opens := finish_opens hs
    refine ⟨opens.2, ?_⟩
    intro g apart
    rw [opens.1, Assoc.lookup_erase_ite, if_neg apart]
  | _ => cases own

/-- A call in progress can always take its next step, whatever the others do or fail to do. -/
theorem next_enabled (streamId : String) {call : OpenCall} (running : w.opens.lookup flag = some call)
    (answer : Except ApplicationError RepositoryInspection) (nextId : String) :
    ∃ w' o, w.step streamId (call.next flag answer nextId) = some (w', o) := by
  cases here : call.execution with
  | entered => exact ⟨_, _, by simp only [OpenCall.next, here, World.step, running]; rfl⟩
  | inspecting => exact ⟨_, _, by simp only [OpenCall.next, here, World.step, running]; rfl⟩
  | inspected inspection =>
    exact ⟨_, _, by simp only [OpenCall.next, here, World.step, running]; rfl⟩
  | returned result => exact ⟨_, _, by simp only [OpenCall.next, here, World.step, running]; rfl⟩

end Steps

/-- What has become of a call behind a trace. -/
inductive Ahead {σ : Type} [StateRepository σ] (streamId : String) (flag : FlagId)
    (call : OpenCall) (tr : List (Action × Output)) (w : World σ) : Prop where
  /-- It is in progress, with nothing said and fewer steps to go, and the next one can be taken. -/
  | running (now : OpenCall) (found : w.opens.lookup flag = some now)
      (same : now.request = call.request)
      (steps : (ownSteps flag tr).length + now.left ≤ call.left)
      (silent : (ownSteps flag tr).filterMap (fun p => p.2.response) = [])
      (enabled : ∀ answer nextId, ∃ w' o,
        w.step streamId (now.next flag answer nextId) = some (w', o))
  /-- It has ended, and has said one thing, under the id of its request. -/
  | answered (gone : w.opens.lookup flag = none)
      (steps : (ownSteps flag tr).length ≤ call.left) (response : ServerResponse)
      (once : (ownSteps flag tr).filterMap (fun p => p.2.response) = [response])
      (own : response.requestId = call.request.requestId)

/-- A step of a call that does not hang, which hears what is answered to it. -/
def Unhung {σ : Type} (hung : FlagId → Prop)
    (answer : FlagId → Except ApplicationError RepositoryInspection) (nextId : FlagId → String)
    (w : World σ) (a : Action) (_ : World σ) : Prop :=
  ∃ flag call, ¬hung flag ∧ w.opens.lookup flag = some call ∧
    a = call.next flag (answer flag) (nextId flag)

section Runs

variable {σ : Type} [StateRepository σ] {streamId : String} {w₀ w w' : World σ}

/-- In every state that a session reaches, the flags of its calls have been given out. -/
theorem flag_lt {tr : List (Action × Output)} (start : Started w₀)
    (run : (session σ streamId).Run Machine.anyStep w₀ tr w) {flag : FlagId} {call : OpenCall}
    (running : w.opens.lookup flag = some call) : flag < w.flagCount := by
  have entries : World.Entries w := by
    apply run.invariant (I := World.Entries)
    · obtain ⟨project, task, repo, rfl⟩ := start.init
      exact ⟨by simp [World.init], by simp [World.init, SessionState.new]⟩
    · intro t a u o h _ hs
      exact World.effect_entries h (World.step_effect hs)
  exact (entries.cancellation flag call running).2

theorem Ahead.step {flag : FlagId} {call : OpenCall} {tr : List (Action × Output)} {a : Action}
    {o : Output} (h : Ahead streamId flag call tr w) (old : flag < w.flagCount)
    (hs : w.step streamId a = some (w', o)) : Ahead streamId flag call (tr ++ [(a, o)]) w' := by
  by_cases own : a.call = some flag
  · have grows := ownSteps_own own tr o
    cases h with
    | answered gone _ _ _ _ =>
      obtain ⟨call', running, _⟩ := own_step hs own
      exact absurd (gone.symm.trans running) (by simp)
    | running now found same steps silent _ =>
      obtain ⟨call', running', moved⟩ := own_step hs own
      obtain rfl := Option.some.inj (found.symm.trans running')
      cases moved with
      | moved execution found' closer quiet =>
        apply Ahead.running _ found' same
        · rw [grows, List.length_append, List.length_singleton]
          omega
        · rw [grows, List.filterMap_append, silent]
          simp [quiet]
        · exact next_enabled streamId found'
      | ended gone response answer own' =>
        have last := OpenCall.left_pos now
        apply Ahead.answered gone _ response _ (own'.trans (congrArg ClientRequest.requestId same))
        · rw [grows, List.length_append, List.length_singleton]
          omega
        · rw [grows, List.filterMap_append, silent]
          simp [answer]
  · have same := other_step hs own old
    have still := ownSteps_other own tr o
    cases h with
    | running now found request steps silent _ =>
      have found' : w'.opens.lookup flag = some now := same.trans found
      exact .running now found' request (still.symm ▸ steps) (still.symm ▸ silent)
        (next_enabled streamId found')
    | answered gone steps response once own' =>
      exact .answered (same.trans gone) (still.symm ▸ steps) response (still.symm ▸ once) own'

/-- Whatever happens behind a call in progress, it comes closer to its answer with each own step. -/
theorem run_ahead {after : List (Action × Output)} {flag : FlagId} {call : OpenCall}
    (run : (session σ streamId).Run Machine.anyStep w after w') (old : flag < w.flagCount)
    (running : w.opens.lookup flag = some call) : Ahead streamId flag call after w' := by
  have both : Ahead streamId flag call after w' ∧ flag < w'.flagCount := by
    apply run.history (P := fun tr w => Ahead streamId flag call tr w ∧ flag < w.flagCount)
    · exact ⟨.running call running rfl (by simp [ownSteps]) rfl (next_enabled streamId running), old⟩
    · intro tr t a u o h _ hs
      exact ⟨h.1.step h.2 hs, Nat.lt_of_lt_of_le h.2 (flagCount_le hs)⟩
  exact both.1

section Drained

variable (streamId : String) {hung : FlagId → Prop}
  (answer : FlagId → Except ApplicationError RepositoryInspection) (nextId : FlagId → String)

/-- A call that does not hang is run to its end, and nothing else changes among the calls. -/
theorem one_returns {flag : FlagId} {call : OpenCall} (free : ¬hung flag)
    (running : w.opens.lookup flag = some call) :
    ∃ after w', (session σ streamId).Run (Unhung hung answer nextId) w after w' ∧
      w'.opens.lookup flag = none ∧ ∀ g, g ≠ flag → w'.opens.lookup g = w.opens.lookup g := by
  -- by induction on the steps the call has before it
  induction n : call.left using Nat.strong_induction_on generalizing w call with
  | _ n ih =>
    obtain ⟨t, o, hs⟩ := next_enabled streamId running (answer flag) (nextId flag)
    have own := OpenCall.next_call flag (answer flag) (nextId flag) call
    have allowed : Unhung hung answer nextId w (call.next flag (answer flag) (nextId flag)) t :=
      ⟨flag, call, free, running, rfl⟩
    have others := (own_step_frame hs own).2
    obtain ⟨call', running', moved⟩ := own_step hs own
    obtain rfl := Option.some.inj (running.symm.trans running')
    cases moved with
    | ended gone _ _ _ => exact ⟨_, t, .one allowed hs, gone, others⟩
    | moved execution found closer _ =>
      obtain ⟨after, w', run, gone, same⟩ := ih _ (n ▸ closer) found rfl
      refine ⟨_, w', .cons allowed hs run, gone, ?_⟩
      intro g apart
      rw [same g apart, others g apart]

/-- All calls of a list that do not hang are run to their ends, one behind the other. -/
theorem all_return (flags : List FlagId) (free : ∀ flag ∈ flags, ¬hung flag) :
    ∃ after w', (session σ streamId).Run (Unhung hung answer nextId) w after w' ∧
      (∀ flag ∈ flags, w'.opens.lookup flag = none) ∧
      ∀ g, g ∉ flags → w'.opens.lookup g = w.opens.lookup g := by
  induction flags generalizing w with
  | nil => exact ⟨[], w, .nil w, by simp, fun _ _ => rfl⟩
  | cons flag flags ih =>
    have rest := fun g hg => free g (List.mem_cons_of_mem flag hg)
    obtain ⟨after, w', run, gone, same⟩ := ih (w := w) rest
    have first := free flag (List.mem_cons_self ..)
    cases found : w'.opens.lookup flag with
    | none =>
      refine ⟨after, w', run, ?_, ?_⟩
      · intro g hg
        rcases List.mem_cons.mp hg with rfl | hg
        · exact found
        · exact gone g hg
      · intro g hg
        exact same g (fun among => hg (List.mem_cons_of_mem flag among))
    | some call =>
      obtain ⟨last, w'', run', gone', same'⟩ := one_returns streamId answer nextId first found
      refine ⟨_, w'', run.append run', ?_, ?_⟩
      · intro g hg
        by_cases here : g = flag
        · rw [here, gone']
        · rw [same' g here]
          exact gone g (List.mem_of_ne_of_mem here hg)
      · intro g hg
        obtain ⟨here, hg⟩ := List.ne_and_not_mem_of_not_mem_cons hg
        rw [same' g here, same g hg]

/-- From every state, the calls that do not hang can all be run to their ends. -/
theorem drained (hung : FlagId → Prop) (w : World σ) :
    ∃ after w', (session σ streamId).Run (Unhung hung answer nextId) w after w' ∧
      ∀ flag call, w'.opens.lookup flag = some call ↔
        hung flag ∧ w.opens.lookup flag = some call := by
  classical
  have free : ∀ flag ∈ w.opens.keys.filter (fun flag => ¬hung flag), ¬hung flag := by
    intro flag among
    simpa using (List.mem_filter.mp among).2
  obtain ⟨after, w', run, gone, same⟩ := all_return streamId answer nextId (w := w) _ free
  refine ⟨after, w', run, fun flag call => ?_⟩
  by_cases stuck : hung flag
  · rw [same flag (by simp [stuck])]
    simp [stuck]
  · have none : w'.opens.lookup flag = none := by
      by_cases here : flag ∈ w.opens
      · exact gone flag (List.mem_filter.mpr ⟨here, by simpa using stuck⟩)
      · have away : flag ∉ w.opens.keys.filter (fun flag => ¬hung flag) :=
          fun among => here (List.mem_filter.mp among).1
        rw [same flag away]
        exact AList.lookup_eq_none.mpr here
    simp [none, stuck]

variable {streamId answer nextId} in
theorem unhung_lock {after : List (Action × Output)}
    (run : (session σ streamId).Run (Unhung hung answer nextId) w after w') :
    w'.statePoisoned = w.statePoisoned := by
  apply run.invariant (I := fun v => v.statePoisoned = w.statePoisoned) rfl
  rintro t a u o same ⟨flag, call, _, _, rfl⟩ hs
  exact (own_step_frame hs (OpenCall.next_call flag _ _ call)).1.trans same

end Drained

/-- An inspection that hangs holds up no other call. Behind every reachable state and whatever
happens there, a call in progress takes at most four steps, each of which it can take in every
state, and then has said one thing, under the id of its request. The calls that do not hang can
all be run to their ends, whatever is answered to them, and those that hang are all that is left:
of the calls, and of their entries where the lock is sound. -/
theorem hung_inspections_hold_up_nobody {tr : List (Action × Output)} (start : Started w₀)
    (run : (session σ streamId).Run Machine.anyStep w₀ tr w) :
    (∀ after w', (session σ streamId).Run Machine.anyStep w after w' →
      ∀ flag call, w.opens.lookup flag = some call →
        (ownSteps flag after).length ≤ 4 ∧ Ahead streamId flag call after w') ∧
    ∀ (hung : FlagId → Prop) (answer : FlagId → Except ApplicationError RepositoryInspection)
      (nextId : FlagId → String),
      ∃ after w', (session σ streamId).Run (Unhung hung answer nextId) w after w' ∧
        (∀ flag call, w'.opens.lookup flag = some call ↔
          hung flag ∧ w.opens.lookup flag = some call) ∧
        (w.statePoisoned = false →
          (∀ r, r ∈ w'.state.active ↔ ∃ flag call, hung flag ∧
            w.opens.lookup flag = some call ∧ call.request.requestId = r) ∧
          ∀ k, k ∈ w'.state.inFlight ↔ ∃ flag call, hung flag ∧
            w.opens.lookup flag = some call ∧ call.key = k) := by
  constructor
  · intro after w' behind flag call running
    have ahead := run_ahead behind (flag_lt start run running) running
    refine ⟨?_, ahead⟩
    have all := OpenCall.left_le call
    cases ahead with
    | running _ _ _ steps _ _ => omega
    | answered _ steps _ _ _ => omega
  · intro hung answer nextId
    obtain ⟨after, w', behind, left⟩ := drained streamId answer nextId hung w
    refine ⟨after, w', behind, left, fun clean => ?_⟩
    have whole := run.append (behind.mono (fun _ _ _ _ => trivial))
    obtain ⟨project, task, repo, rfl⟩ := start.init
    have kept := run_kept (World.init_kept project task repo) whole
      ((unhung_lock behind).trans clean)
    have operations : Operations w'.flagCount w'.opens w'.state.active w'.state.inFlight :=
      kept.operations
    constructor
    · intro r
      rw [operations.mem_active r]
      simp only [left, and_assoc]
    · intro k
      rw [operations.mem_inFlight k]
      simp only [left, and_assoc]

end Runs

/-- The inspection of the first of two calls hangs; the second one ends and leaves. -/
theorem hung_inspections_hold_up_nobody_again :
    ∃ tr w after w', (session Empty "s").Run Machine.anyStep World.new tr w ∧
      w.state.active.keys = ["b", "a"] ∧
      (session Empty "s").Run (Unhung (fun flag => flag = 0) (fun _ => .error .cancelled)
        (fun _ => "id")) w after w' ∧
      ((ownSteps 1 after).length ≤ 4 ∧ w'.opens.lookup 1 = none) ∧
      ∀ r, r ∈ w'.state.active ↔ r = "a" := by
  have run := Machine.run_of_exec_isSome (session Empty "s") Machine.anyStep World.new [
    .dispatch ⟨PROTOCOL_VERSION,"a",.openProject "/p",some "k"⟩,
    .firstCheck 0,
    .dispatch ⟨PROTOCOL_VERSION,"b",.openProject "/q",some "l"⟩] (by decide)
  obtain ⟨bounded, drains⟩ := hung_inspections_hold_up_nobody .new run
  obtain ⟨after, w', behind, left, entries⟩ :=
    drains (fun flag => flag = 0) (fun _ => .error .cancelled) (fun _ => "id")
  have second := bounded after w' (behind.mono (fun _ _ _ _ => trivial)) 1 _ rfl
  refine ⟨_, _, after, w', run, by decide, behind, ⟨second.1, ?_⟩, ?_⟩
  · cases found : w'.opens.lookup 1 with
    | none => rfl
    | some call => exact absurd ((left 1 call).mp found).1 (by decide)
  · intro r
    rw [(entries (by decide)).1 r]
    constructor
    · rintro ⟨flag, call, rfl, found, named⟩
      obtain rfl := Option.some.inj found
      exact named.symm
    · rintro rfl
      exact ⟨0, _, rfl, rfl, rfl⟩

end Kesharon.Daemon

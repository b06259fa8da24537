import Kesharon.Domain.Task

namespace Kesharon.Domain

/-- The lifecycle: each call that succeeds, with the state it needs and what it leaves. -/
inductive Moves (t : Task) : LifecycleCall → Task → Prop where
  | startPlanning (h : t.state = .draft) : Moves t .startPlanning { t with state := .planning }
  | requestApproval (plan : TaskPlan) (h : t.state = .planning) :
      Moves t (.requestApproval plan) { t with plan := some plan, state := .awaitingApproval }
  | approve (h : t.state = .awaitingApproval) : Moves t .approve { t with state := .executing }
  | reject (h : t.state = .awaitingApproval) : Moves t .reject { t with state := .cancelled }
  | pause (h : t.state = .executing) : Moves t .pause { t with state := .paused }
  | resume (h : t.state = .paused) : Moves t .resume { t with state := .executing }
  | submitForReview (h : t.state = .executing) :
      Moves t .submitForReview { t with state := .awaitingReview }
  | requestRevision (h : t.state = .awaitingReview) :
      Moves t .requestRevision { t with state := .executing }
  | accept (h : t.state = .awaitingReview) : Moves t .accept { t with state := .completed }
  | setExecutionMode (mode : ExecutionMode) :
      Moves t (.setExecutionMode mode) { t with executionMode := mode }

/-- The calls that the gate consists of. -/
def LifecycleCall.isGate : LifecycleCall → Bool
  | .requestApproval _ | .approve => true
  | _ => false

namespace Task

/-- The calls of a sequence that succeed. -/
def succeeded (t : Task) : List LifecycleCall → List LifecycleCall
  | [] => []
  | c :: calls =>
    match t.call c with
    | (.ok (), t') => c :: t'.succeeded calls
    | (.error _, t') => t'.succeeded calls

/-- The requests for approval and the approvals that have succeeded. -/
def gate (t : Task) (calls : List LifecycleCall) : List LifecycleCall :=
  (t.succeeded calls).filter LifecycleCall.isGate

@[simp] theorem after_nil (t : Task) : t.after [] = t := rfl

theorem after_append (t : Task) (calls more : List LifecycleCall) :
    t.after (calls ++ more) = (t.after calls).after more := by
  simp [after, List.foldl_append]

theorem after_cons (t : Task) (c : LifecycleCall) (calls : List LifecycleCall) :
    t.after (c :: calls) = (t.call c).2.after calls := rfl

theorem succeeded_append (t : Task) (calls more : List LifecycleCall) :
    t.succeeded (calls ++ more) = t.succeeded calls ++ (t.after calls).succeeded more := by
  induction calls generalizing t with
  | nil => rfl
  | cons c calls ih =>
    have rest := ih (t.call c).2
    rw [List.cons_append, after_cons]
    simp only [succeeded]
    cases called : t.call c with
    | mk result t' =>
      rw [called] at rest
      cases result with
      | error e => exact rest
      | ok u => exact congrArg (c :: ·) rest

theorem transition_moves {t : Task} {source target : TaskState} {action : String}
    {c : LifecycleCall} (moves : t.state = source → Moves t c { t with state := target }) :
    (∃ e, t.transition source target action = (.error e, t)) ∨
      (t.transition source target action).1 = .ok () ∧
        Moves t c (t.transition source target action).2 := by
  unfold transition
  cases required : t.requireState source action with
  | error e => exact .inl ⟨e, rfl⟩
  | ok u =>
    have state := (requireState_ok required).1
    exact .inr ⟨rfl, moves state⟩

/-- A call fails and leaves the task alone, or it is a move of the lifecycle. -/
theorem call_moves (t : Task) (c : LifecycleCall) :
    (∃ e, t.call c = (.error e, t)) ∨ (t.call c).1 = .ok () ∧ Moves t c (t.call c).2 := by
  cases c with
  | requestApproval plan =>
    simp only [call, requestApproval]
    cases required : t.requireState .planning "request_approval" with
    | error e => exact .inl ⟨e, rfl⟩
    | ok u =>
      have state := (requireState_ok required).1
      exact .inr ⟨rfl, .requestApproval plan state⟩
  | setExecutionMode mode => exact .inr ⟨rfl, .setExecutionMode mode⟩
  | startPlanning => exact transition_moves .startPlanning
  | approve => exact transition_moves .approve
  | reject => exact transition_moves .reject
  | pause => exact transition_moves .pause
  | resume => exact transition_moves .resume
  | submitForReview => exact transition_moves .submitForReview
  | requestRevision => exact transition_moves .requestRevision
  | accept => exact transition_moves .accept

theorem call_of_error {t : Task} {c : LifecycleCall} {e : TaskError}
    (failed : (t.call c).1 = .error e) : (t.call c).2 = t := by
  rcases t.call_moves c with ⟨e', alone⟩ | ⟨succeeded, -⟩
  · rw [alone]
  · rw [succeeded] at failed
    cases failed

/-- How far the gate has been passed, in each state. -/
def Gated (t : Task) (gate : List LifecycleCall) : Prop :=
  match t.state with
  | .draft | .planning => t.plan = none ∧ gate = []
  | .awaitingApproval | .cancelled => ∃ plan, t.plan = some plan ∧ gate = [.requestApproval plan]
  | .executing | .paused | .awaitingReview | .completed =>
    ∃ plan, t.plan = some plan ∧ gate = [.requestApproval plan,.approve]
  | .failed => False

/-- A move goes through the gate, or stays on its side of it. -/
theorem Gated.moves {t t' : Task} {c : LifecycleCall} {gate : List LifecycleCall}
    (h : t.Gated gate) (moves : Moves t c t') :
    t'.Gated (gate ++ [c].filter LifecycleCall.isGate) := by
  cases moves with
  | startPlanning state => simpa [Gated, state, LifecycleCall.isGate] using h
  | requestApproval plan state =>
    simp only [Gated, state] at h
    simp [Gated, LifecycleCall.isGate, h.2]
  | approve state =>
    simp only [Gated, state] at h
    obtain ⟨plan, planned, passed⟩ := h
    simp [Gated, LifecycleCall.isGate, planned, passed]
  | reject state => simpa [Gated, state, LifecycleCall.isGate] using h
  | pause state => simpa [Gated, state, LifecycleCall.isGate] using h
  | resume state => simpa [Gated, state, LifecycleCall.isGate] using h
  | submitForReview state => simpa [Gated, state, LifecycleCall.isGate] using h
  | requestRevision state => simpa [Gated, state, LifecycleCall.isGate] using h
  | accept state => simpa [Gated, state, LifecycleCall.isGate] using h
  | setExecutionMode mode => simpa [Gated, LifecycleCall.isGate] using h

theorem Gated.call {t : Task} {gate : List LifecycleCall} (h : t.Gated gate) (c : LifecycleCall) :
    (t.call c).2.Gated (gate ++ t.gate [c]) := by
  rcases t.call_moves c with ⟨e, alone⟩ | ⟨succeeded, moves⟩
  · have none : t.gate [c] = [] := by simp [Task.gate, Task.succeeded, alone]
    rw [none, List.append_nil, alone]
    exact h
  · have one : t.gate [c] = [c].filter LifecycleCall.isGate := by
      cases called : t.call c with
      | mk result t' =>
        rw [called] at succeeded
        obtain rfl : result = .ok () := succeeded
        simp [Task.gate, Task.succeeded, called]
    rw [one]
    exact h.moves moves

theorem Gated.after {t : Task} {gate : List LifecycleCall} (h : t.Gated gate)
    (calls : List LifecycleCall) : (t.after calls).Gated (gate ++ t.gate calls) := by
  induction calls generalizing t gate with
  | nil => simpa [Task.gate, Task.succeeded] using h
  | cons c calls ih =>
    have step := ih (h.call c)
    have cut : t.gate (c :: calls) = t.gate [c] ++ (t.call c).2.gate calls := by
      have both := t.succeeded_append [c] calls
      unfold Task.gate
      rw [← List.filter_append]
      exact congrArg _ both
    rw [cut, ← List.append_assoc]
    exact step

theorem new_gated {id : TaskId} {goal : String} {budget : ResourceBudget} {t : Task}
    (created : Task.new id goal budget = .ok t) : t.Gated [] := by
  cases blank : nonBlank TaskError.emptyGoal goal with
  | error e => simp [Task.new, blank, bind, Except.bind] at created
  | ok text =>
    have first : (⟨id,text,budget,.draft,.plan,none⟩ : Task) = t := by
      simpa [Task.new, blank, bind, Except.bind, pure, Except.pure] using created
    subst first
    exact ⟨rfl, rfl⟩

/-- A plan that has been set stays. -/
theorem plan_of_moves {t t' : Task} {c : LifecycleCall} {plan : TaskPlan}
    (planned : t.PlanInvariant) (set : t.plan = some plan) (moves : Moves t c t') :
    t'.plan = some plan := by
  cases moves with
  | requestApproval other state =>
    rw [planned (.inr state)] at set
    cases set
  | _ => exact set

theorem plan_after {t : Task} {plan : TaskPlan} (planned : t.PlanInvariant)
    (set : t.plan = some plan) (calls : List LifecycleCall) : (t.after calls).plan = some plan := by
  induction calls generalizing t with
  | nil => exact set
  | cons c calls ih =>
    rw [after_cons]
    apply ih (call_planInvariant planned c)
    rcases t.call_moves c with ⟨e, alone⟩ | ⟨-, moves⟩
    · rw [alone]
      exact set
    · exact plan_of_moves planned set moves

/-- Nothing but the execution mode changes in a terminal state. -/
theorem terminal_of_moves {t t' : Task} {c : LifecycleCall} (terminal : t.state.isTerminal = true)
    (moves : Moves t c t') : t'.state = t.state ∧ t'.plan = t.plan := by
  cases moves with
  | setExecutionMode mode => exact ⟨rfl, rfl⟩
  | requestApproval plan state =>
    rw [state] at terminal
    cases terminal
  | _ state =>
    rw [state] at terminal
    cases terminal

theorem terminal_after {t : Task} (terminal : t.state.isTerminal = true)
    (calls : List LifecycleCall) :
    (t.after calls).state = t.state ∧ (t.after calls).plan = t.plan := by
  induction calls generalizing t with
  | nil => exact ⟨rfl, rfl⟩
  | cons c calls ih =>
    rw [after_cons]
    have kept : (t.call c).2.state = t.state ∧ (t.call c).2.plan = t.plan := by
      rcases t.call_moves c with ⟨e, alone⟩ | ⟨-, moves⟩
      · rw [alone]
        exact ⟨rfl, rfl⟩
      · exact terminal_of_moves terminal moves
    obtain ⟨state, plan⟩ := ih (kept.1 ▸ terminal)
    exact ⟨state.trans kept.1, plan.trans kept.2⟩

end Task

/-- The gate, after a sequence of calls. -/
structure ApprovalGate (t : Task) (calls : List LifecycleCall) : Prop where
  failing : ∀ c e, ((t.after calls).call c).1 = .error e →
    ((t.after calls).call c).2 = t.after calls
  /-- One request for approval and behind it one approval, with the plan of the request. -/
  approved : (t.after calls).state ∈ [.executing,.paused,.awaitingReview,.completed] →
    ∃ plan, t.gate calls = [.requestApproval plan,.approve] ∧
      (t.after calls).plan = some plan ∧ plan.steps ≠ []
  unplanned : (t.after calls).state = .draft ∨ (t.after calls).state = .planning →
    (t.after calls).plan = none
  planned : ∀ plan, (t.after calls).plan = some plan →
    ∀ more, (t.after (calls ++ more)).plan = some plan
  terminal : (t.after calls).state.isTerminal = true → ∀ more,
    (t.after (calls ++ more)).state = (t.after calls).state ∧
      (t.after (calls ++ more)).plan = (t.after calls).plan

/-- Nothing is executed without an approved plan. -/
theorem approval_gate {id : TaskId} {goal : String} {budget : ResourceBudget} {t : Task}
    (created : Task.new id goal budget = .ok t) (calls : List LifecycleCall) :
    ApprovalGate t calls := by
  have gated := (Task.new_gated created).after calls
  have planned := Task.after_planInvariant (Task.new_planInvariant created) calls
  rw [List.nil_append] at gated
  refine ⟨?_, ?_, planned, ?_, ?_⟩
  · intro c e failed
    exact Task.call_of_error failed
  · intro state
    have passed : ∃ plan, (t.after calls).plan = some plan ∧
        t.gate calls = [.requestApproval plan,.approve] := by
      simp only [List.mem_cons, List.not_mem_nil, or_false] at state
      rcases state with state | state | state | state <;>
        simpa only [Task.Gated, state] using gated
    obtain ⟨plan, set, calls⟩ := passed
    exact ⟨plan, calls, set, plan.steps_ne⟩
  · intro plan set more
    rw [Task.after_append]
    exact Task.plan_after planned set more
  · intro terminal more
    rw [Task.after_append]
    exact Task.terminal_after terminal more

/-- A task that is approved in vain, planned, approved and paused. -/
theorem approval_gate_paused :
    ∃ t plan, Task.new ⟨⟨"t",by decide⟩⟩ "goal" ⟨1,2,3,none,none,none,by decide,by decide,
        by decide,by decide⟩ = .ok t ∧
      (t.after [.approve,.startPlanning,.requestApproval plan,.approve,.pause]).state = .paused ∧
      ApprovalGate t [.approve,.startPlanning,.requestApproval plan,.approve,.pause] := by
  have created : Task.new ⟨⟨"t",by decide⟩⟩ "goal" ⟨1,2,3,none,none,none,by decide,by decide,
      by decide,by decide⟩ = .ok _ := rfl
  have plan : TaskPlan := ⟨[⟨⟨⟨"s",by decide⟩⟩,⟨"step",by decide⟩⟩],by decide⟩
  exact ⟨_, plan, created, rfl, approval_gate created _⟩

end Kesharon.Domain

import Kesharon.Domain.Budget

namespace Kesharon.Domain

@[ext] structure TaskStep where
  id : TaskStepId
  description : NonBlank
  deriving DecidableEq, Repr

def TaskStep.new (id : TaskStepId) (description : String) : Except TaskError TaskStep :=
  (nonBlank .emptyStepDescription description).map (TaskStep.mk id)

@[ext] structure TaskPlan where
  steps : List TaskStep
  steps_ne : steps ≠ []
  deriving DecidableEq

def TaskPlan.new (steps : List TaskStep) : Except TaskError TaskPlan :=
  if h : steps = [] then .error .emptyPlan else .ok ⟨steps,h⟩

inductive ExecutionMode where
  | plan
  | act
  deriving DecidableEq, Repr

@[ext] structure TaskCheckpoint where
  id : NonBlank
  description : NonBlank
  gitRef : NonBlank
  timestampMillis : UInt64
  deriving DecidableEq

def TaskCheckpoint.new (id description gitRef : String) (timestampMillis : UInt64) :
    Except TaskError TaskCheckpoint := do
  let id ← nonBlank .emptyIdentifier id
  let description ← nonBlank .emptyIdentifier description
  let gitRef ← nonBlank .emptyIdentifier gitRef
  return ⟨id,description,gitRef,timestampMillis⟩

@[ext] structure Task where
  id : TaskId
  goal : NonBlank
  budget : ResourceBudget
  state : TaskState
  executionMode : ExecutionMode
  plan : Option TaskPlan
  deriving DecidableEq

namespace Task

def new (id : TaskId) (goal : String) (budget : ResourceBudget) : Except TaskError Task := do
  let goal ← nonBlank .emptyGoal goal
  return ⟨id,goal,budget,.draft,.plan,none⟩

def setExecutionMode (mode : ExecutionMode) (t : Task) : Task := { t with executionMode := mode }

def isActive (t : Task) : Bool := !t.state.isTerminal

def requireState (expected : TaskState) (action : String) (t : Task) : Except TaskError Unit :=
  if t.state.isTerminal then .error .terminalState
  else if t.state ≠ expected then .error (.invalidTransition t.state action)
  else .ok ()

/-- The lifecycle methods take `&mut self`: the result and the task as they leave it. -/
def transition (source target : TaskState) (action : String) (t : Task) :
    Except TaskError Unit × Task :=
  match t.requireState source action with
  | .error e => (.error e, t)
  | .ok () => (.ok (), { t with state := target })

def startPlanning (t : Task) := t.transition .draft .planning "start_planning"

def requestApproval (plan : TaskPlan) (t : Task) : Except TaskError Unit × Task :=
  match t.requireState .planning "request_approval" with
  | .error e => (.error e, t)
  | .ok () => (.ok (), { t with plan := some plan, state := .awaitingApproval })

def approve (t : Task) := t.transition .awaitingApproval .executing "approve"
def reject (t : Task) := t.transition .awaitingApproval .cancelled "reject"
def pause (t : Task) := t.transition .executing .paused "pause"
def resume (t : Task) := t.transition .paused .executing "resume"
def submitForReview (t : Task) := t.transition .executing .awaitingReview "submit_for_review"
def requestRevision (t : Task) := t.transition .awaitingReview .executing "request_revision"
def accept (t : Task) := t.transition .awaitingReview .completed "accept"

end Task

inductive LifecycleCall where
  | startPlanning
  | requestApproval (plan : TaskPlan)
  | approve
  | reject
  | pause
  | resume
  | submitForReview
  | requestRevision
  | accept
  | setExecutionMode (mode : ExecutionMode)

namespace Task

def call (t : Task) : LifecycleCall → Except TaskError Unit × Task
  | .startPlanning => t.startPlanning
  | .requestApproval plan => t.requestApproval plan
  | .approve => t.approve
  | .reject => t.reject
  | .pause => t.pause
  | .resume => t.resume
  | .submitForReview => t.submitForReview
  | .requestRevision => t.requestRevision
  | .accept => t.accept
  | .setExecutionMode mode => (.ok (), t.setExecutionMode mode)

/-- A task after a sequence of calls whose errors are ignored. -/
def after (t : Task) (calls : List LifecycleCall) : Task :=
  calls.foldl (fun t c => (t.call c).2) t

theorem requireState_ok {t : Task} {expected : TaskState} {action : String}
    (h : t.requireState expected action = .ok ()) :
    t.state = expected ∧ t.state.isTerminal = false := by
  unfold requireState at h
  split_ifs at h with ht hs
  exact ⟨by simpa using hs, by simpa using ht⟩

/-- A transition either leaves the task alone or moves its state from source to target. -/
theorem transition_cases (t : Task) (source target : TaskState) (action : String) :
    (t.transition source target action).2 = t ∨
      t.state = source ∧ t.state.isTerminal = false ∧
        t.transition source target action = (.ok (), { t with state := target }) := by
  unfold transition
  cases h : t.requireState source action with
  | error e => exact .inl rfl
  | ok u =>
    obtain ⟨hs, ht⟩ := requireState_ok h
    exact .inr ⟨hs, ht, rfl⟩

/-- No plan before the request for approval. -/
def PlanInvariant (t : Task) : Prop :=
  t.state = .draft ∨ t.state = .planning → t.plan = none

theorem new_planInvariant {id : TaskId} {goal : String} {budget : ResourceBudget} {t : Task}
    (h : Task.new id goal budget = .ok t) : t.PlanInvariant := by
  cases hg : nonBlank TaskError.emptyGoal goal with
  | error e => simp [Task.new, hg, bind, Except.bind] at h
  | ok g =>
    have ht : (⟨id,g,budget,.draft,.plan,none⟩ : Task) = t := by
      simpa [Task.new, hg, bind, Except.bind, pure, Except.pure] using h
    subst ht
    exact fun _ => rfl

theorem transition_planInvariant {t : Task} {source target : TaskState} {action : String}
    (h : t.PlanInvariant)
    (hst : target = .draft ∨ target = .planning → source = .draft ∨ source = .planning) :
    (t.transition source target action).2.PlanInvariant := by
  rcases transition_cases t source target action with he | ⟨hs, -, he⟩
  · rwa [he]
  · rw [he]
    exact fun hp => h (by rw [hs]; exact hst hp)

theorem call_planInvariant {t : Task} (h : t.PlanInvariant) (c : LifecycleCall) :
    (t.call c).2.PlanInvariant := by
  cases c with
  | requestApproval plan =>
    simp only [call, requestApproval]
    cases t.requireState .planning "request_approval" with
    | error e => exact h
    | ok u => rintro (hs | hs) <;> cases hs
  | setExecutionMode mode => exact h
  | startPlanning => exact transition_planInvariant h (fun _ => .inl rfl)
  | _ => exact transition_planInvariant h (by decide)

theorem after_planInvariant {t : Task} (h : t.PlanInvariant) (calls : List LifecycleCall) :
    (t.after calls).PlanInvariant := by
  induction calls generalizing t with
  | nil => exact h
  | cons c calls ih => exact ih (call_planInvariant h c)

end Task

end Kesharon.Domain
